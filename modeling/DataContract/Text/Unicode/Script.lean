import DataContract.Text.Unicode.Category
/-!
# Scripts

Every code point belongs to one script, named by a code of four letters.  Some code
points are used in several scripts; their list of scripts stands in a table of
exceptions.
-/

namespace DataContract
namespace Unicode

/-- The scripts of the code points from zero on, each with the length of its run. -/
def scriptTable : String :=
  "Zyyy1t Latnq Zyyy6 Latnq Zyyy1b Latn1 Zyyyf Latn1 Zyyy5 Latnn Zyyy1 Latnv Zyyy1 Latnch
  Zyyy13 Latn5 Zyyy5 Bopo2 Zyyyk Zinh34 Grek4 Zyyy1 Grek3 Zzzz2 Grek4 Zyyy1 Grek1 Zzzz4 Grek1
  Zyyy1 Grek1 Zyyy1 Grek3 Zzzz1 Grek1 Zzzz1 Grekk Zzzz1 Grek1r Copte Grekg Cyrl3p Zinh2
  Cyrl4p Zzzz1 Armn12 Zzzz2 Armn1e Zzzz2 Armn3 Zzzz1 Hebr1j Zzzz8 Hebrr Zzzz4 Hebr6 Zzzzb
  Arab5 Zyyy1 Arab6 Zyyy1 Arabe Zyyy1 Arab3 Zyyy1 Arabw Zyyy1 Araba Zinhb Arabq Zinh1 Arab30
  Zyyy1 Araby Syrce Zzzz1 Syrc1o Zzzz2 Syrc3 Arab1c Thaa1e Zzzze Nkoo1n Zzzz2 Nkoo3 Samr1a
  Zzzz2 Samrf Zzzz1 Mands Zzzz2 Mand1 Zzzz1 Syrcb Zzzz5 Arabv Zzzz1 Arab2 Zzzz6 Arab22 Zyyy1
  Arabt Deva29 Zinh4 Devaf Zyyy2 Devaq Beng4 Zzzz1 Beng8 Zzzz2 Beng2 Zzzz2 Bengm Zzzz1 Beng7
  Zzzz1 Beng1 Zzzz3 Beng4 Zzzz2 Beng9 Zzzz2 Beng2 Zzzz2 Beng4 Zzzz8 Beng1 Zzzz4 Beng2 Zzzz1
  Beng5 Zzzz2 Bengp Zzzz2 Guru3 Zzzz1 Guru6 Zzzz4 Guru2 Zzzz2 Gurum Zzzz1 Guru7 Zzzz1 Guru2
  Zzzz1 Guru2 Zzzz1 Guru2 Zzzz2 Guru1 Zzzz1 Guru5 Zzzz4 Guru2 Zzzz2 Guru3 Zzzz3 Guru1 Zzzz7
  Guru4 Zzzz1 Guru1 Zzzz7 Guruh Zzzza Gujr3 Zzzz1 Gujr9 Zzzz1 Gujr3 Zzzz1 Gujrm Zzzz1 Gujr7
  Zzzz1 Gujr2 Zzzz1 Gujr5 Zzzz2 Gujra Zzzz1 Gujr3 Zzzz1 Gujr3 Zzzz2 Gujr1 Zzzzf Gujr4 Zzzz2
  Gujrc Zzzz7 Gujr7 Zzzz1 Orya3 Zzzz1 Orya8 Zzzz2 Orya2 Zzzz2 Oryam Zzzz1 Orya7 Zzzz1 Orya2
  Zzzz1 Orya5 Zzzz2 Orya9 Zzzz2 Orya2 Zzzz2 Orya3 Zzzz7 Orya3 Zzzz4 Orya2 Zzzz1 Orya5 Zzzz2
  Oryai Zzzza Taml2 Zzzz1 Taml6 Zzzz3 Taml3 Zzzz1 Taml4 Zzzz3 Taml2 Zzzz1 Taml1 Zzzz1 Taml2
  Zzzz3 Taml2 Zzzz3 Taml3 Zzzz3 Tamlc Zzzz4 Taml5 Zzzz3 Taml3 Zzzz1 Taml4 Zzzz2 Taml1 Zzzz6
  Taml1 Zzzze Tamll Zzzz5 Telud Zzzz1 Telu3 Zzzz1 Telun Zzzz1 Telug Zzzz2 Telu9 Zzzz1 Telu3
  Zzzz1 Telu4 Zzzz7 Telu2 Zzzz1 Telu3 Zzzz2 Telu1 Zzzz2 Telu4 Zzzz2 Telua Zzzz7 Telu9 Kndad
  Zzzz1 Knda3 Zzzz1 Kndan Zzzz1 Kndaa Zzzz1 Knda5 Zzzz2 Knda9 Zzzz1 Knda3 Zzzz1 Knda4 Zzzz7
  Knda2 Zzzz6 Knda2 Zzzz1 Knda4 Zzzz2 Kndaa Zzzz1 Knda3 Zzzzc Mlymd Zzzz1 Mlym3 Zzzz1 Mlym1f
  Zzzz1 Mlym3 Zzzz1 Mlym6 Zzzz4 Mlymg Zzzz2 Mlymq Zzzz1 Sinh3 Zzzz1 Sinhi Zzzz3 Sinho Zzzz1
  Sinh9 Zzzz1 Sinh1 Zzzz2 Sinh7 Zzzz3 Sinh1 Zzzz4 Sinh6 Zzzz1 Sinh1 Zzzz1 Sinh8 Zzzz6 Sinha
  Zzzz2 Sinh3 Zzzzc Thai1m Zzzz4 Zyyy1 Thais Zzzz11 Laoo2 Zzzz1 Laoo1 Zzzz1 Laoo5 Zzzz1 Laooo
  Zzzz1 Laoo1 Zzzz1 Laoon Zzzz2 Laoo5 Zzzz1 Laoo1 Zzzz1 Laoo7 Zzzz1 Laooa Zzzz2 Laoo4 Zzzzw
  Tibt20 Zzzz1 Tibt10 Zzzz4 Tibt13 Zzzz1 Tibt10 Zzzz1 Tibtf Zzzz1 Tibt7 Zyyy4 Tibt2 Zzzz11
  Mymr4g Geor12 Zzzz1 Geor1 Zzzz5 Geor1 Zzzz2 Geor17 Zyyy1 Geor4 Hang74 Ethi21 Zzzz1 Ethi4
  Zzzz2 Ethi7 Zzzz1 Ethi1 Zzzz1 Ethi4 Zzzz2 Ethi15 Zzzz1 Ethi4 Zzzz2 Ethix Zzzz1 Ethi4 Zzzz2
  Ethi7 Zzzz1 Ethi1 Zzzz1 Ethi4 Zzzz2 Ethif Zzzz1 Ethi1l Zzzz1 Ethi4 Zzzz2 Ethi1v Zzzz2 Ethiw
  Zzzz3 Ethiq Zzzz6 Cher2e Zzzz2 Cher6 Zzzz2 Canshs Ogamt Zzzz3 Runr23 Zyyy3 Runrb Zzzz7
  Tglgm Zzzz9 Tglg1 Hanol Zyyy2 Zzzz9 Buhdk Zzzzc Tagbd Zzzz1 Tagb3 Zzzz1 Tagb2 Zzzzc Khmr2m
  Zzzz2 Khmra Zzzz6 Khmra Zzzz6 Mong2 Zyyy2 Mong1 Zyyy1 Mongk Zzzz6 Mong2h Zzzz7 Mong17 Zzzz5
  Cans1y Zzzza Limbv Zzzz1 Limbc Zzzz4 Limbc Zzzz4 Limb1 Zzzz3 Limbc Taleu Zzzz2 Tale5 Zzzzb
  Talu18 Zzzz4 Taluq Zzzz6 Talub Zzzz3 Talu2 Khmrw Bugis Zzzz2 Bugi2 Lana1r Zzzz1 Lanat Zzzz2
  Lanab Zzzz6 Lanaa Zzzz6 Lanae Zzzz2 Zinhv Zzzz1d Bali25 Zzzz3 Bali1b Zzzz1 Sund1s Batk1g
  Zzzz8 Batk4 Lepc1k Zzzz3 Lepcf Zzzz3 Lepc3 Olck1c Cyrl9 Zzzz7 Geor17 Zzzz2 Geor3 Sund8
  Zzzz8 Zinh3 Zyyy1 Zinhd Zyyy1 Zinh7 Zyyy4 Zinh1 Zyyy6 Zinh1 Zyyy3 Zinh2 Zyyy1 Zzzz5 Latn12
  Grek5 Cyrl1 Latn1d Grek5 Latn4 Grek5 Latnd Cyrl1 Latn1y Grek1 Zinh1s Latn74 Grekm Zzzz2
  Grek6 Zzzz2 Grek12 Zzzz2 Grek6 Zzzz2 Grek8 Zzzz1 Grek1 Zzzz1 Grek1 Zzzz1 Grek1 Zzzz1 Grekv
  Zzzz2 Grek1h Zzzz1 Grekf Zzzz1 Greke Zzzz2 Grek6 Zzzz1 Grekj Zzzz2 Grek3 Zzzz1 Grek9 Zzzz1
  Zyyyc Zinh2 Zyyy2f Zzzz1 Zyyyb Latn1 Zzzz2 Zyyyb Latn1 Zyyyf Zzzz1 Latnd Zzzz3 Zyyyx Zzzzf
  Zinhx Zzzzf Zyyy12 Grek1 Zyyy3 Latn2 Zyyy6 Latn1 Zyyyr Latn1 Zyyyh Latn15 Zyyy3 Zzzz4
  Zyyyif Zzzzp Zyyyb Zzzzl Zyyyps Brai74 Zyyyhg Zzzz2 Zyyyw Zzzz1 Zyyy2x Glag2o Latnw Copt38
  Zzzz5 Copt7 Geor12 Zzzz1 Geor1 Zzzz5 Geor1 Zzzz2 Tfng1k Zzzz7 Tfng2 Zzzze Tfng1 Ethin Zzzz9
  Ethi7 Zzzz1 Ethi7 Zzzz1 Ethi7 Zzzz1 Ethi7 Zzzz1 Ethi7 Zzzz1 Ethi7 Zzzz1 Ethi7 Zzzz1 Ethi7
  Zzzz1 Cyrlw Zyyy2m Zzzzy Haniq Zzzz1 Hani2h Zzzzc Hani5y Zzzzq Zyyyc Zzzz4 Zyyy5 Hani1
  Zyyy1 Hani1 Zyyyp Hani9 Zinh4 Hang2 Zyyy8 Hani4 Zyyy4 Zzzz1 Hira2e Zzzz2 Zinh2 Zyyy2 Hira3
  Zyyy1 Kana2i Zyyy2 Kana3 Zzzz5 Bopo17 Zzzz1 Hang2m Zzzz1 Zyyyg Bopow Zyyy10 Zzzzc Kanag
  Hangv Zzzz1 Zyyy1s Hangv Zyyy29 Kana1b Zyyy1 Kana2g Zyyy4o Hani534 Zyyy1s Hanig74 Yiiiwd
  Zzzz3 Yiii1j Zzzz9 Lisu1c Vaii8c Zzzzk Cyrl2o Bamu2g Zzzz8 Zyyyy Latn2u Zyyy3 Latn1s Zzzz5
  Latn2 Zzzz1 Latn1 Zzzz1 Latn5 Zzzzo Latne Sylo19 Zzzz3 Zyyya Zzzz6 Phag1k Zzzz8 Saur1y
  Zzzz8 Saurc Zzzz6 Devaw Kali1a Zyyy1 Kali1 Rjng10 Zzzzb Rjng1 Hangt Zzzz3 Java26 Zzzz1
  Zyyy1 Javaa Zzzz4 Java2 Mymrv Zzzz1 Cham1j Zzzz9 Chame Zzzz2 Chama Zzzz2 Cham4 Mymrw Tavt1v
  Zzzzo Tavt5 Mtein Zzzza Ethi6 Zzzz2 Ethi6 Zzzz2 Ethi6 Zzzz9 Ethi7 Zzzz1 Ethi7 Zzzz1 Latn17
  Zyyy1 Latn9 Grek1 Latn4 Zyyy2 Zzzz4 Cher28 Mtei1a Zzzz2 Mteia Zzzz6 Hang8mc Zzzzc Hangn
  Zzzz4 Hang1d Zzzz6is Hania6 Zzzz2 Hani2y Zzzz12 Latn7 Zzzzc Armn5 Zzzz5 Hebrq Zzzz1 Hebr5
  Zzzz1 Hebr1 Zzzz1 Hebr2 Zzzz1 Hebr2 Zzzz1 Hebra Arab37 Zzzzg Araba3 Zyyy2 Arab28 Zzzz2
  Arab1i Zzzz7 Arab1 Zzzzw Arabg Zinhg Zyyya Zzzz6 Zinhe Cyrl2 Zyyyz Zzzz1 Zyyyj Zzzz1 Zyyy4
  Zzzz4 Arab5 Zzzz1 Arab3r Zzzz2 Zyyy1 Zzzz1 Zyyyw Latnq Zyyy6 Latnq Zyyyb Kanaa Zyyy1 Kana19
  Zyyy2 Hangv Zzzz3 Hang6 Zzzz2 Hang6 Zzzz2 Hang6 Zzzz2 Hang3 Zzzz3 Zyyy7 Zzzz1 Zyyy7 Zzzza
  Zyyy5 Zzzz2 Linbc Zzzz1 Linbq Zzzz1 Linbj Zzzz1 Linb2 Zzzz1 Linbf Zzzz2 Linbe Zzzzy Linb3f
  Zzzz5 Zyyy3 Zzzz4 Zyyy19 Zzzz3 Zyyy9 Grek27 Zzzz1 Zyyyd Zzzz3 Grek1 Zzzz1b Zyyy19 Zinh1
  Zzzz3m Lycit Zzzz3 Cari1d Zzzzf Zinh1 Zyyyr Zzzz4 Ital10 Zzzz9 Ital3 Gothr Zzzz5 Perm17
  Zzzz5 Ugaru Zzzz1 Ugar1 Xpeo10 Zzzz4 Xpeoe Zzzz16 Dsrt28 Shaw1c Osmau Zzzz2 Osmaa Zzzz6
  Osge10 Zzzz4 Osge10 Zzzz4 Elba14 Zzzz8 Aghb1g Zzzzb Aghb1 Vithb Zzzz1 Vithf Zzzz1 Vith7
  Zzzz1 Vith2 Zzzz1 Vithb Zzzz1 Vithf Zzzz1 Vith7 Zzzz1 Vith2 Zzzz1v Lina8n Zzzz9 Linam Zzzza
  Lina8 Zzzzo Latn6 Zzzz1 Latn16 Zzzz1 Latn9 Zzzz1x Cprt6 Zzzz2 Cprt1 Zzzz1 Cprt18 Zzzz1
  Cprt2 Zzzz3 Cprt1 Zzzz2 Cprt1 Armim Zzzz1 Armi9 Palmw Nbatv Zzzz8 Nbat9 Zzzz1c Hatrj Zzzz1
  Hatr2 Zzzz5 Hatr5 Phnxs Zzzz3 Phnx1 Lydiq Zzzz5 Lydi1 Zzzz1s Merow Merco Zzzz4 Merck Zzzz2
  Merc1a Khar4 Zzzz1 Khar2 Zzzz5 Khar8 Zzzz1 Khar3 Zzzz1 Khart Zzzz2 Khar3 Zzzz4 Khara Zzzz7
  Khar9 Zzzz7 Sarbw Narbw Zzzzw Mani13 Zzzz4 Manic Zzzz9 Avst1i Zzzz3 Avst7 Prtim Zzzz2 Prti8
  Phlij Zzzz5 Phli8 Phlpi Zzzz7 Phlp4 Zzzzc Phlp7 Zzzz28 Orkh21 Zzzz1j Hung1f Zzzzd Hung1f
  Zzzz7 Hung6 Rohg14 Zzzz8 Rohga Zzzz86 Arabv Zzzz1 Yezi16 Zzzz1 Yezi3 Zzzz2 Yezi2 Zzzz23
  Arab3 Sogo14 Zzzz8 Sogd16 Zzzzm Ougrq Zzzz12 Chrss Zzzzk Elymn Zzzz9 Brah26 Zzzz4 Brah10
  Zzzz9 Brah1 Kthi1v Zzzza Kthi1 Zzzz2 Sorap Zzzz7 Soraa Zzzz6 Cakm1h Zzzz1 Cakmi Zzzz8
  Mahj13 Zzzz9 Shrd2o Zzzz1 Sinhk Zzzzb Khoji Zzzz1 Khoj1b Zzzz1q Mult7 Zzzz1 Mult1 Zzzz1
  Mult4 Zzzz1 Multf Zzzz1 Multb Zzzz6 Sind1n Zzzz5 Sinda Zzzz6 Gran4 Zzzz1 Gran8 Zzzz2 Gran2
  Zzzz2 Granm Zzzz1 Gran7 Zzzz1 Gran2 Zzzz1 Gran5 Zzzz1 Zinh1 Gran9 Zzzz2 Gran2 Zzzz2 Gran3
  Zzzz2 Gran1 Zzzz6 Gran1 Zzzz5 Gran7 Zzzz2 Gran7 Zzzz3 Gran5 Zzzz3v Newa2k Zzzz1 Newa5 Zzzzu
  Tirh20 Zzzz8 Tirha Zzzz4m Sidd1i Zzzz2 Sidd12 Zzzzy Modi1x Zzzzb Modia Zzzz6 Mongd Zzzzj
  Takr1m Zzzz6 Takra Zzzz1i Ahomr Zzzz2 Ahomf Zzzz4 Ahomn Zzzz55 Dogr1o Zzzz2s Wara2b Zzzzc
  Wara1 Diak7 Zzzz2 Diak1 Zzzz2 Diak8 Zzzz1 Diak2 Zzzz1 Diaku Zzzz1 Diak2 Zzzz2 Diakc Zzzz9
  Diaka Zzzz1y Nand8 Zzzz2 Nand1a Zzzz2 Nandb Zzzzr Zanb20 Zzzz8 Soyo2b Zzzzd Cansg Pauc1l
  Zzzz7 Devaa Zzzz6u Bhks9 Zzzz1 Bhks19 Zzzz1 Bhkse Zzzza Bhkst Zzzz3 Marcw Zzzz2 Marcm Zzzz1
  Marce Zzzz21 Gonm7 Zzzz1 Gonm2 Zzzz1 Gonm18 Zzzz3 Gonm1 Zzzz1 Gonm2 Zzzz1 Gonm9 Zzzz8 Gonma
  Zzzz6 Gong6 Zzzz1 Gong2 Zzzz1 Gong11 Zzzz1 Gong2 Zzzz1 Gong6 Zzzz7 Gonga Zzzz8m Makap Zzzz7
  Kawih Zzzz1 Kawi15 Zzzz3 Kawis Zzzz2e Lisu1 Zzzzf Taml1e Zzzzd Taml1 Xsuxpm Zzzz2u Xsux33
  Zzzz1 Xsux5 Zzzzb Xsux5g Zzzz218 Cpmn2r Zzzzd Egypuu Zzzz33e Hluwg7 Zzzz6nt Bamuft Zzzz7
  Mroov Zzzz1 Mrooa Zzzz4 Mroo2 Tnsa27 Zzzz1 Tnsaa Zzzz6 Bassu Zzzz2 Bass6 Zzzza Hmng1y Zzzza
  Hmnga Zzzz1 Hmng7 Zzzz1 Hmngl Zzzz5 Hmngj Zzzzj4 Medf2j Zzzz2t Plrd23 Zzzz4 Plrd1l Zzzz7
  Plrdh Zzzz1s Tang1 Nshu1 Hani2 Kits1 Zzzzb Hani2 Zzzze Tang4qg Zzzz8 Tanglc Kitsd2 Zzzz16
  Tang9 Zzzz6w7 Kana4 Zzzz1 Kana7 Zzzz1 Kana2 Zzzz1 Kana1 Hira7z Kana3 Zzzzf Hira1 Zzzzt
  Hira3 Zzzz2 Kana1 Zzzze Kana4 Zzzz8 Nshub0 Zzzz1s4 Dupl2z Zzzz5 Dupld Zzzz3 Dupl9 Zzzz7
  Dupla Zzzz2 Dupl4 Zyyy4 Zzzz3mk Zinh1a Zzzz2 Zinhn Zzzz9 Zyyy38 Zzzz1o Zyyy6u Zzzza Zyyy13
  Zzzz2 Zyyy1q Zinh3 Zyyyh Zinh8 Zyyy2 Zinh7 Zyyyu Zinh4 Zyyy1p Zzzzl Grek1y Zzzz3e Zyyyk
  Zzzzc Zyyyk Zzzzc Zyyy2f Zzzz9 Zyyyp Zzzz3r Zyyy2d Zzzz1 Zyyy1z Zzzz1 Zyyy2 Zzzz2 Zyyy1
  Zzzz2 Zyyy2 Zzzz2 Zyyy4 Zzzz1 Zyyyc Zzzz1 Zyyy1 Zzzz1 Zyyy7 Zzzz1 Zyyy1t Zzzz1 Zyyy4 Zzzz2
  Zyyy8 Zzzz1 Zyyy7 Zzzz1 Zyyys Zzzz1 Zyyy4 Zzzz1 Zyyy5 Zzzz1 Zyyy1 Zzzz3 Zyyy7 Zzzz1 Zyyy9g
  Zzzz2 Zyyy84 Zzzz2 Zyyy1e Sgnwi4 Zzzzf Sgnw5 Zzzz1 Sgnwf Zzzzuo Latnv Zzzz6 Latn6 Zzzz5x
  Glag7 Zzzz1 Glagh Zzzz2 Glag7 Zzzz1 Glag2 Zzzz1 Glag5 Zzzz5 Cyrl1q Zzzzx Cyrl1 Zzzz34
  Hmnp19 Zzzz3 Hmnpe Zzzz2 Hmnpa Zzzz4 Hmnp2 Zzzz8w Totov Zzzzh Wcho1m Zzzz5 Wcho1 Zzzzcw
  Nagm16 Zzzzkm Ethi7 Zzzz1 Ethi4 Zzzz1 Ethi2 Zzzz1 Ethif Zzzz1 Mend5h Zzzz2 Mendg Zzzz15
  Adlm24 Zzzz4 Adlma Zzzz4 Adlm2 Zzzzlt Zyyy1w Zzzz24 Zyyy1p Zzzz5e Arab4 Zzzz1 Arabr Zzzz1
  Arab2 Zzzz1 Arab1 Zzzz2 Arab1 Zzzz1 Araba Zzzz1 Arab4 Zzzz1 Arab1 Zzzz1 Arab1 Zzzz6 Arab1
  Zzzz4 Arab1 Zzzz1 Arab1 Zzzz1 Arab1 Zzzz1 Arab3 Zzzz1 Arab2 Zzzz1 Arab1 Zzzz2 Arab1 Zzzz1
  Arab1 Zzzz1 Arab1 Zzzz1 Arab1 Zzzz1 Arab1 Zzzz1 Arab2 Zzzz1 Arab1 Zzzz2 Arab4 Zzzz1 Arab7
  Zzzz1 Arab4 Zzzz1 Arab4 Zzzz1 Arab1 Zzzz1 Araba Zzzz1 Arabh Zzzz5 Arab3 Zzzz1 Arab5 Zzzz1
  Arabh Zzzz1g Arab2 Zzzz7i Zyyy18 Zzzz4 Zyyy2s Zzzzc Zyyyf Zzzz2 Zyyyf Zzzz1 Zyyyf Zzzz1
  Zyyy11 Zzzza Zyyy4u Zzzz1k Zyyyq Hira1 Zyyy2 Zzzzd Zyyy18 Zzzz4 Zyyy9 Zzzz7 Zyyy2 Zzzze
  Zyyy6 Zzzz4a Zyyyrc Zzzz4 Zyyyh Zzzz3 Zyyyd Zzzz3 Zyyy3b Zzzz4 Zyyy2n Zzzz6 Zyyyc Zzzz4
  Zyyy1 Zzzzf Zyyyc Zzzz4 Zyyy1k Zzzz8 Zyyya Zzzz6 Zyyy14 Zzzz8 Zyyyu Zzzz2 Zyyy2 Zzzz26
  Zyyy9g Zzzzc Zyyye Zzzz2 Zyyyd Zzzz3 Zyyy9 Zzzz7 Zyyy1a Zzzz1 Zyyy7 Zzzz8 Zyyye Zzzz4 Zyyy9
  Zzzz7 Zyyy9 Zzzz7 Zyyy43 Zzzz1 Zyyy1j Zzzz11 Zyyya Zzzzsm Haniwyo Zzzzw Hani37e Zzzz6
  Hani66 Zzzz2 Hani4g2 Zzzze Hani5rl Zzzz2e7 Hanif2 Zzzz15u Hani3t7 Zzzz5 Hani38g Zzzzf975
  Zyyy1 Zzzzu Zyyy2o Zzzz3k Zinh6o Zzzz47bk"

/-- Ranges used in several scripts: gap, length and the codes of the scripts. -/
def sharedScriptTable : String :=
  "n6,1,Grek 2,1,Grek t,d,Latn 7n,1,Cyrl,Perm 0,1,Cyrl,Glag 0,2,Cyrl,Latn 0,1,Cyrl,Glag
  as,1,Arab,Nkoo,Rohg,Syrc,Thaa,Yezi e,1,Arab,Nkoo,Rohg,Syrc,Thaa,Yezi 0,1,Arab,Syrc,Thaa
  2,1,Adlm,Arab,Nkoo,Rohg,Syrc,Thaa,Yezi w,1,Adlm,Arab,Mand,Mani,Ougr,Phlp,Rohg,Sogd,Syrc
  a,b,Arab,Syrc a,a,Arab,Thaa,Yezi 6,1,Arab,Syrc 2r,1,Arab,Rohg
  ho,1,Beng,Deva,Gran,Gujr,Guru,Knda,Latn,Mlym,Orya,Shrd,Taml,Telu,Tirh
  0,1,Beng,Deva,Gran,Gujr,Guru,Knda,Latn,Mlym,Orya,Taml,Telu,Tirh
  h,1,Beng,Deva,Dogr,Gong,Gonm,Gran,Gujr,Guru,Knda,Mahj,Mlym,Nand,Orya,Sind,Sinh,Sylo,Takr,Taml,Telu,Tirh
  0,1,Beng,Deva,Dogr,Gong,Gonm,Gran,Gujr,Guru,Knda,Limb,Mahj,Mlym,Nand,Orya,Sind,Sinh,Sylo,Takr,Taml,Telu,Tirh
  0,a,Deva,Dogr,Kthi,Mahj 3a,a,Beng,Cakm,Sylo 3a,a,Guru,Mult 3a,a,Gujr,Khoj 6u,e,Gran,Taml
  6q,a,Knda,Nand nk,a,Cakm,Mymr,Tale 4x,1,Geor,Latn 189,2,Buhd,Hano,Tagb,Tglg 5n,2,Mong,Phag
  1,1,Mong,Phag y2,1,Beng,Deva,Gran,Knda 0,1,Deva 0,1,Beng,Deva,Gran,Knda 0,1,Deva,Gran
  0,1,Deva 0,2,Beng,Deva 0,1,Deva,Shrd 0,1,Beng,Deva 0,1,Deva,Shrd
  0,1,Deva,Knda,Mlym,Orya,Taml,Telu 0,1,Deva 0,2,Deva,Shrd 0,2,Deva 0,1,Deva,Shrd
  0,1,Beng,Deva 0,7,Deva 0,1,Deva,Nand 0,1,Beng,Deva 0,2,Deva 0,1,Beng,Deva 0,4,Deva
  0,1,Beng,Deva,Gran,Knda,Nand,Orya,Telu,Tirh 0,1,Deva,Gran 0,1,Deva,Gran,Knda 0,2,Beng,Deva
  0,1,Beng 0,2,Deva,Gran 0,1,Nand 5h,2,Grek 1i,1,Cyrl,Syrc 1,1,Syrc fo,1,Latn,Mong
  5c,1,Deva,Gran,Latn 2mq,1,Cyrl,Glag cd,2,Bopo,Hang,Hani,Hira,Kana,Yiii
  0,1,Bopo,Hang,Hani,Hira,Kana 2,1,Hani 1,a,Bopo,Hang,Hani,Hira,Kana,Yiii
  1,1,Bopo,Hang,Hani,Hira,Kana 0,8,Bopo,Hang,Hani,Hira,Kana,Yiii 0,4,Bopo,Hang,Hani,Hira,Kana
  a,4,Bopo,Hani 2,1,Bopo,Hang,Hani,Hira,Kana 0,5,Hira,Kana 1,1,Bopo,Hang,Hani,Hira,Kana
  4,2,Hani,Hira,Kana 0,2,Hani 2h,4,Hira,Kana 3,1,Hira,Kana 2i,1,Bopo,Hang,Hani,Hira,Kana,Yiii
  0,1,Hira,Kana 43,g,Hani w,10,Hani 1o,14,Hani 1k,1d,Hani f,c,Hani 1f,1,Hani 2g,p,Hani
  a,5,Hani 2o,v,Hani mls,1,Cyrl,Glag 40,8,Hani,Latn
  88,3,Deva,Dogr,Gujr,Guru,Khoj,Knda,Kthi,Mahj,Mlym,Modi,Nand,Sind,Takr,Tirh
  0,3,Deva,Dogr,Gujr,Guru,Khoj,Knda,Kthi,Mahj,Modi,Nand,Sind,Takr,Tirh
  0,4,Deva,Dogr,Gujr,Guru,Khoj,Kthi,Mahj,Modi,Sind,Takr,Tirh 53,1,Beng,Deva 1,1,Deva,Taml
  1m,1,Kali,Latn,Mymr 4g,1,Bugi,Java gha,2,Arab,Nkoo 4y,1,Arab,Thaa a,1,Arab,Thaa
  1z,2,Bopo,Hang,Hani,Hira,Kana 7u,5,Bopo,Hang,Hani,Hira,Kana,Yiii a,1,Hira,Kana
  19,2,Hira,Kana 9s,2,Cpmn,Cprt,Linb 0,1,Cprt,Linb 4,19,Cprt,Lina,Linb 3,9,Cprt,Linb
  bk,s,Arab,Copt 1km,1,Mani,Ougr 1la,1,Gran,Taml 1,1,Gran,Taml 1j,2,Gran,Taml 2hf,2,Gran,Taml
  1,1,Gran,Taml uz0,4,Dupl 4ho,i,Hani 63i,2,Hani"

/-- The code of every script and the names that stand for it. -/
def scriptNames : String :=
  "Adlm adlm adlam / Aghb aghb caucasianalbanian / Ahom ahom / Arab arab arabic / Armi armi
  imperialaramaic / Armn armn armenian / Avst avst avestan / Bali bali balinese / Bamu bamu
  bamum / Bass bass bassavah / Batk batk batak / Beng beng bengali / Bhks bhks bhaiksuki /
  Bopo bopo bopomofo / Brah brah brahmi / Brai brai braille / Bugi bugi buginese / Buhd buhd
  buhid / Cakm cakm chakma / Cans cans canadianaboriginal / Cari cari carian / Cham cham /
  Cher cher cherokee / Chrs chrs chorasmian / Copt copt coptic qaac / Cpmn cpmn cyprominoan /
  Cprt cprt cypriot / Cyrl cyrl cyrillic / Deva deva devanagari / Diak diak divesakuru / Dogr
  dogr dogra / Dsrt dsrt deseret / Dupl dupl duployan / Egyp egyp egyptianhieroglyphs / Elba
  elba elbasan / Elym elym elymaic / Ethi ethi ethiopic / Geor geor georgian / Glag glag
  glagolitic / Gong gong gunjalagondi / Gonm gonm masaramgondi / Goth goth gothic / Gran gran
  grantha / Grek grek greek / Gujr gujr gujarati / Guru guru gurmukhi / Hang hang hangul /
  Hani hani han / Hano hano hanunoo / Hatr hatr hatran / Hebr hebr hebrew / Hira hira
  hiragana / Hluw hluw anatolianhieroglyphs / Hmng hmng pahawhhmong / Hmnp hmnp
  nyiakengpuachuehmong / Hung hung oldhungarian / Ital ital olditalic / Java java javanese /
  Kali kali kayahli / Kana kana katakana / Kawi kawi / Khar khar kharoshthi / Khmr khmr khmer
  / Khoj khoj khojki / Kits kits khitansmallscript / Knda knda kannada / Kthi kthi kaithi /
  Lana lana taitham / Laoo laoo lao / Latn latn latin / Lepc lepc lepcha / Limb limb limbu /
  Lina lina lineara / Linb linb linearb / Lisu lisu / Lyci lyci lycian / Lydi lydi lydian /
  Mahj mahj mahajani / Maka maka makasar / Mand mand mandaic / Mani mani manichaean / Marc
  marc marchen / Medf medf medefaidrin / Mend mend mendekikakui / Merc merc meroiticcursive /
  Mero mero meroitichieroglyphs / Mlym mlym malayalam / Modi modi / Mong mong mongolian /
  Mroo mroo mro / Mtei mtei meeteimayek / Mult mult multani / Mymr mymr myanmar / Nagm nagm
  nagmundari / Nand nand nandinagari / Narb narb oldnortharabian / Nbat nbat nabataean / Newa
  newa / Nkoo nkoo nko / Nshu nshu nushu / Ogam ogam ogham / Olck olck olchiki / Orkh orkh
  oldturkic / Orya orya oriya / Osge osge osage / Osma osma osmanya / Ougr ougr olduyghur /
  Palm palm palmyrene / Pauc pauc paucinhau / Perm perm oldpermic / Phag phag phagspa / Phli
  phli inscriptionalpahlavi / Phlp phlp psalterpahlavi / Phnx phnx phoenician / Plrd plrd
  miao / Prti prti inscriptionalparthian / Rjng rjng rejang / Rohg rohg hanifirohingya / Runr
  runr runic / Samr samr samaritan / Sarb sarb oldsoutharabian / Saur saur saurashtra / Sgnw
  sgnw signwriting / Shaw shaw shavian / Shrd shrd sharada / Sidd sidd siddham / Sind sind
  khudawadi / Sinh sinh sinhala / Sogd sogd sogdian / Sogo sogo oldsogdian / Sora sora
  sorasompeng / Soyo soyo soyombo / Sund sund sundanese / Sylo sylo sylotinagri / Syrc syrc
  syriac / Tagb tagb tagbanwa / Takr takr takri / Tale tale taile / Talu talu newtailue /
  Taml taml tamil / Tang tang tangut / Tavt tavt taiviet / Telu telu telugu / Tfng tfng
  tifinagh / Tglg tglg tagalog / Thaa thaa thaana / Thai thai / Tibt tibt tibetan / Tirh tirh
  tirhuta / Tnsa tnsa tangsa / Toto toto / Ugar ugar ugaritic / Vaii vaii vai / Vith vith
  vithkuqi / Wara wara warangciti / Wcho wcho wancho / Xpeo xpeo oldpersian / Xsux xsux
  cuneiform / Yezi yezi yezidi / Yiii yiii yi / Zanb zanb zanabazarsquare / Zinh zinh
  inherited qaai / Zyyy zyyy common"

/-- The runs of equal script: the code point after the run and the code. -/
def scriptRuns : List (Nat × String) :=
  ((words scriptTable).foldl (fun (runs, next) word =>
    let next := next + readNumber (word.drop 4)
    ((next, String.ofList (word.take 4)) :: runs, next))
    (([], 0) : List (Nat × String) × Nat)).1.reverse

/-- The ranges used in several scripts, ends included. -/
def sharedScripts : List (Nat × Nat × List String) :=
  ((words sharedScriptTable).foldl (fun (ranges, next) word =>
    match word.splitOn ',' with
    | gap :: size :: codes =>
        let first := next + readNumber gap
        let after := first + readNumber size
        ((first, after - 1, codes.map String.ofList) :: ranges, after)
    | _ => (ranges, next)) (([], 0) : List (Nat × Nat × List String) × Nat)).1.reverse

/-- The code of a script of a name. -/
def scriptCode? (name : String) : Option String :=
  ((words scriptNames).splitOn ['/']).findSome? fun
    | code :: names => if names.contains name.toList then some (String.ofList code) else none
    | [] => none

/-- The code of the script of a character. -/
def script (c : Char) : String :=
  match scriptRuns.find? fun run => decide (c.toNat < run.1) with
  | some (_, code) => code
  | none => "Zzzz"

/-- The codes of the scripts that use a character. -/
def scripts (c : Char) : List String :=
  match sharedScripts.find? fun (low, high, _) =>
      decide (low ≤ c.toNat) && decide (c.toNat ≤ high) with
  | some (_, _, codes) => codes
  | none => [script c]

end Unicode
end DataContract
