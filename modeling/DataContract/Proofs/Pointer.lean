import DataContract.Schema.Loading
import DataContract.Proofs.Issue.Path
import DataContract.Value
import Mathlib.Data.List.Basic
/-!
# Texts of pointers

The text of a pointer is read with the document at hand: behind every slash stands a token,
in which the escapes of the tilde and of the slash are undone.  In an object a token is a
name, in an array it is a place.  A token without its escapes could be both, so texts alone
do not say which pointer was meant, but texts in one document do.

**Results.**
* `tokens?_text`: the tokens of a pointer are read back from its text.
* `Value.resolve?_text`: in a document, the text of a pointer to a node leads to that node.
* `render_inj_of_node?`: pointers to nodes of one document have different texts.
-/

namespace DataContract

namespace Value

/-- The part of a value that a step leads to. -/
def part? : Value → Pointer.Token → Option Value
  | .object entries, .name name => Entries.get? entries name
  | .array items, .place i => items[i]?
  | _, _ => none

/-- The node that a pointer leads to. -/
def node? (v : Value) (p : Pointer) : Option Value := p.foldlM part? v

section Nodes

variable {v w : Value} {token : Pointer.Token} {p : Pointer}

@[simp] theorem node?_nil (v : Value) : v.node? [] = some v := rfl

theorem node?_cons (v : Value) (token : Pointer.Token) (p : Pointer) :
    v.node? (token :: p) = (v.part? token).bind fun w => w.node? p :=
  List.foldlM_cons

theorem node?_cons_of_part? (h : v.part? token = some w) : v.node? (token :: p) = w.node? p := by
  rw [node?_cons, h, Option.bind_some]

end Nodes

end Value

namespace Pointer

namespace Token

/-- A step without the escapes. -/
def raw : Token → List Char
  | .name s => s.toList
  | .place i => Nat.toDigits 10 i

end Token

/-- A token without its escapes.  A tilde must begin an escape. -/
def unescape? : List Char → Option (List Char)
  | [] => some []
  | '~' :: '0' :: cs => (unescape? cs).map ('~' :: ·)
  | '~' :: '1' :: cs => (unescape? cs).map ('/' :: ·)
  | '~' :: _ => none
  | c :: cs => (unescape? cs).map (c :: ·)

/-- The tokens of a text, every one behind a slash. -/
def tokens? : List Char → Option (List (List Char))
  | [] => some []
  | '/' :: cs => (cs.splitOn '/').mapM unescape?
  | _ => none

/-- The place that a token names, in digits and without leading zeros. -/
def index? (token : List Char) : Option Nat :=
  let i := Nat.ofDigitChars 10 token 0
  if Nat.toDigits 10 i = token then some i else none

/-- The text of a pointer behind the sign for the root. -/
def text (p : Pointer) : String := String.join (p.map fun token => "/" ++ token.render)

section Reading

variable {token : Token} {p : Pointer}

theorem unescape?_escape_append (c : Char) (cs : List Char) :
    unescape? (Token.escape c ++ cs) = (unescape? cs).map (c :: ·) := by
  by_cases hTilde : c = '~'
  · subst hTilde
    rfl
  by_cases hSlash : c = '/'
  · subst hSlash
    rfl
  rw [Token.escape, if_neg hTilde, if_neg hSlash, List.singleton_append]
  simp [unescape?, hTilde]

theorem unescape?_flatMap_escape (cs : List Char) :
    unescape? (cs.flatMap Token.escape) = some cs := by
  induction cs with
  | nil => rfl
  | cons c cs ih => rw [List.flatMap_cons, unescape?_escape_append, ih, Option.map_some]

/-- The escapes are undone at one go: what the first of these stands for is not an escape. -/
example : unescape? ['~', '0', '1'] = some ['~', '1'] ∧ unescape? ['~', '1'] = some ['/'] ∧
    unescape? ['~', '2'] = none := by
  decide

/-- Digits need no escape. -/
theorem flatMap_escape_toDigits (i : Nat) :
    (Nat.toDigits 10 i).flatMap Token.escape = Nat.toDigits 10 i := by
  have hSame : ∀ c ∈ Nat.toDigits 10 i, Token.escape c = [c] := by
    intro c hc
    have hDigit := Segment.isDigit_of_mem_toDigits c hc
    have hTilde : c ≠ '~' := by
      rintro rfl
      cases hDigit
    have hSlash : c ≠ '/' := by
      rintro rfl
      cases hDigit
    rw [Token.escape, if_neg hTilde, if_neg hSlash]
  rw [List.flatMap_congr hSame]
  exact List.flatMap_singleton' _

theorem Token.toList_render (token : Token) :
    token.render.toList = token.raw.flatMap Token.escape := by
  cases token with
  | name s => rw [Token.render, String.toList_ofList, Token.raw]
  | place i =>
      rw [Token.raw, flatMap_escape_toDigits]
      exact Nat.toList_repr

theorem unescape?_render (token : Token) : unescape? token.render.toList = some token.raw := by
  rw [Token.toList_render, unescape?_flatMap_escape]

/-- The slash is escaped wherever it stands in a token. -/
theorem slash_not_mem_render (token : Token) : '/' ∉ token.render.toList := by
  rw [Token.toList_render, List.mem_flatMap]
  rintro ⟨c, -, hc⟩
  rw [Token.escape] at hc
  split at hc
  · simp at hc
  · split at hc
    · simp at hc
    · rename_i hSlash
      exact hSlash (List.mem_singleton.mp hc).symm

theorem toList_text (p : Pointer) :
    p.text.toList = p.flatMap fun token => '/' :: token.render.toList := by
  induction p with
  | nil => rfl
  | cons token p ih =>
      rw [text, List.map_cons, String.join_cons, String.toList_append, String.toList_append,
        List.flatMap_cons, ← ih]
      rfl

theorem toList_text_cons (token : Token) (p : Pointer) :
    (text (token :: p)).toList =
      '/' :: ['/'].intercalate ((token :: p).map fun t => t.render.toList) := by
  rw [toList_text]
  induction p generalizing token with
  | nil => simp
  | cons next p ih =>
      rw [List.flatMap_cons, ih next, List.map_cons, List.map_cons, List.map_cons,
        List.intercalate_cons_cons]
      simp

theorem mapM_unescape?_render (p : Pointer) :
    (p.map fun t => t.render.toList).mapM unescape? = some (p.map Token.raw) := by
  induction p with
  | nil => rfl
  | cons token p ih =>
      rw [List.map_cons, List.mapM_cons, unescape?_render, ih]
      rfl

/-- The tokens of a pointer are read back from its text. -/
theorem tokens?_text (p : Pointer) : tokens? p.text.toList = some (p.map Token.raw) := by
  cases p with
  | nil => rfl
  | cons token p =>
      have hSlash : ∀ cs ∈ (token :: p).map fun t => t.render.toList, '/' ∉ cs := by
        intro cs hcs
        obtain ⟨t, -, rfl⟩ := List.mem_map.mp hcs
        exact slash_not_mem_render t
      rw [toList_text_cons, tokens?, List.splitOn_intercalate '/' hSlash (by simp),
        mapM_unescape?_render]

theorem index?_toDigits (i : Nat) : index? (Nat.toDigits 10 i) = some i := by
  rw [index?, Nat.ofDigitChars_ten_toDigits]
  exact if_pos rfl

end Reading
end Pointer

namespace Value

/-- The part of a value that a token leads to. -/
def partNamed? : Value → List Char → Option Value
  | .object entries, token => Entries.get? entries (String.ofList token)
  | .array items, token => (Pointer.index? token).bind fun i => items[i]?
  | _, _ => none

/-- The node of a document that a text leads to. -/
def resolve? (v : Value) (text : String) : Option Value :=
  (Pointer.tokens? text.toList).bind fun tokens => tokens.foldlM partNamed? v

section Resolving

open Pointer

variable {v w u : Value} {token : Token} {p q : Pointer}

theorem partNamed?_raw (h : v.part? token = some w) : v.partNamed? token.raw = some w := by
  cases v with
  | object entries =>
      cases token with
      | name s => rwa [Token.raw, partNamed?, String.ofList_toList]
      | place i => cases h
  | array items =>
      cases token with
      | name s => cases h
      | place i => rwa [Token.raw, partNamed?, index?_toDigits]
  | _ => cases h

/-- In a document, the text of a pointer to a node leads to that node. -/
theorem resolve?_text (h : v.node? p = some w) : v.resolve? p.text = some w := by
  rw [resolve?, tokens?_text, Option.bind_some]
  induction p generalizing v with
  | nil => exact h
  | cons token p ih =>
      rw [node?_cons] at h
      obtain ⟨u, hPart, hRest⟩ := Option.bind_eq_some_iff.mp h
      rw [List.map_cons, List.foldlM_cons, partNamed?_raw hPart]
      exact ih hRest

/-- At one node, steps that lead on are the same when they are without their escapes. -/
theorem token_eq_of_raw_eq {t t' : Token} (h : v.part? t = some w) (h' : v.part? t' = some u)
    (hRaw : t.raw = t'.raw) :
    t = t' := by
  cases v with
  | object entries =>
      cases t with
      | name s =>
          cases t' with
          | name s' =>
              have hChars : s.toList = s'.toList := hRaw
              rw [String.toList_inj.mp hChars]
          | place i => cases h'
      | place i => cases h
  | array items =>
      cases t with
      | name s => cases h
      | place i =>
          cases t' with
          | name s => cases h'
          | place j =>
              have hDigits : Nat.toDigits 10 i = Nat.toDigits 10 j := hRaw
              rw [Segment.toDigits_inj hDigits]
  | _ => cases h

theorem eq_of_map_raw_eq (hp : v.node? p = some w) (hq : v.node? q = some u)
    (hRaw : p.map Token.raw = q.map Token.raw) :
    p = q := by
  induction p generalizing v q with
  | nil => exact (List.map_eq_nil_iff.mp hRaw.symm).symm
  | cons t p ih =>
      cases q with
      | nil => cases hRaw
      | cons t' q =>
          rw [List.map_cons, List.map_cons, List.cons.injEq] at hRaw
          rw [node?_cons] at hp hq
          obtain ⟨x, hPart, hp⟩ := Option.bind_eq_some_iff.mp hp
          obtain ⟨y, hPart', hq⟩ := Option.bind_eq_some_iff.mp hq
          obtain rfl := token_eq_of_raw_eq hPart hPart' hRaw.1
          obtain rfl := Option.some.inj (hPart.symm.trans hPart')
          rw [ih hp hq hRaw.2]

/-- Pointers to nodes of one document have different texts. -/
theorem render_inj_of_node? (hp : v.node? p = some w) (hq : v.node? q = some u) :
    p.render = q.render ↔ p = q := by
  constructor
  · intro h
    have hText : p.text = q.text := by
      rw [← String.toList_inj]
      have hChars := congrArg String.toList h
      rw [Pointer.render, Pointer.render, String.toList_append, String.toList_append] at hChars
      exact List.append_cancel_left hChars
    have hTokens := tokens?_text p
    rw [hText, tokens?_text, Option.some.injEq] at hTokens
    exact eq_of_map_raw_eq hp hq hTokens.symm
  · exact congrArg Pointer.render

end Resolving
end Value
end DataContract
