import SqlCompiler.Proofs.Text.Split
import SqlCompiler.Sql.Literal

/-!
# Reading literals

A literal is read from its opening apostrophe to the first apostrophe that is not doubled, and each
doubled one means one. What is written as a literal is read as the text itself, whatever follows,
unless that starts with an apostrophe (`readLiteral?_quoteText`).
-/

namespace SqlCompiler.Sql

open Text (doubleMark doubleMark_singleton_cons)

/-- Reads a literal behind its opening apostrophe: the text it means, and what follows it. -/
def readBody? : List Char → Option (List Char × List Char)
  | [] => none
  | '\'' :: '\'' :: rest => (readBody? rest).map fun (body, tail) => ('\'' :: body, tail)
  | '\'' :: rest => some ([], rest)
  | c :: rest => (readBody? rest).map fun (body, tail) => (c :: body, tail)

/-- Reads a literal: the text it means, and what follows it. -/
def readLiteral? : List Char → Option (List Char × List Char)
  | '\'' :: rest => readBody? rest
  | _ => none

theorem readBody?_of_ne {c : Char} (hc : c ≠ '\'') (s : List Char) :
    readBody? (c :: s) = (readBody? s).map fun (body, tail) => (c :: body, tail) := by
  rw [readBody?]
  · rintro rest rfl
    exact absurd rfl hc
  · rintro rfl
    exact absurd rfl hc

theorem readBody?_closing {rest : List Char} (h : rest.head? ≠ some '\'') :
    readBody? ('\'' :: rest) = some ([], rest) := by
  rw [readBody?]
  rintro tail rfl
  exact h rfl

theorem readBody?_doubleMark (s : List Char) {rest : List Char} (h : rest.head? ≠ some '\'') :
    readBody? (doubleMark ['\''] s ++ '\'' :: rest) = some (s, rest) := by
  induction s with
  | nil =>
    have hnil : doubleMark ['\''] [] = [] := by
      rw [doubleMark]
    rw [hnil, List.nil_append, readBody?_closing h]
  | cons c s ih =>
    rw [doubleMark_singleton_cons]
    by_cases hc : c = '\''
    · rw [if_pos hc, List.cons_append, List.cons_append, readBody?, ih, hc]
      rfl
    · rw [if_neg hc, List.cons_append, readBody?_of_ne hc, ih]
      rfl

theorem toList_quoteText (s : String) :
    (quoteText s).toList = '\'' :: (doubleMark ['\''] s.toList ++ ['\'']) := by
  unfold quoteText Text.enclose
  simp [String.toList_append, String.toList_ofList]

/-- **Reading literals.** A written literal is read as its text. -/
theorem readLiteral?_quoteText (s : String) {rest : List Char} (h : rest.head? ≠ some '\'') :
    readLiteral? ((quoteText s).toList ++ rest) = some (s.toList, rest) := by
  rw [toList_quoteText, List.cons_append, List.append_assoc]
  exact readBody?_doubleMark s.toList h

theorem quoteText_inj {s t : String} : quoteText s = quoteText t ↔ s = t := by
  constructor
  · intro h
    have hnil : ([] : List Char).head? ≠ some '\'' := by decide
    have hs := readLiteral?_quoteText s hnil
    rw [h, readLiteral?_quoteText t hnil] at hs
    exact String.toList_inj.mp (Prod.mk.inj (Option.some.inj hs)).1.symm
  · rintro rfl
    rfl

/-- A literal is longer than its text. -/
theorem length_lt_quoteText (s : String) : s.toList.length < (quoteText s).toList.length := by
  have hbody : ∀ l : List Char, l.length ≤ (doubleMark ['\''] l).length := by
    intro l
    induction l with
    | nil => exact Nat.zero_le _
    | cons c l ih =>
      rw [doubleMark_singleton_cons]
      split
      · simp only [List.length_cons]
        omega
      · simp only [List.length_cons]
        omega
  have hlength := hbody s.toList
  rw [toList_quoteText, List.length_cons, List.length_append]
  omega

end SqlCompiler.Sql
