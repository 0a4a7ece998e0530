import Mathlib.Data.List.Basic
import Mathlib.Data.Nat.Init
import SqlCompiler.Proofs.Text.Digits
import SqlCompiler.Text.Quoted

/-!
# Reading texts in quotes

A text in quotes tells the text, and where it ends, whatever follows it (`quoted_append_inj`). Each
character is read back from what it is shown as (`readShown_showChar`), and none is shown as anything
that starts with the quote in use.
-/

namespace SqlCompiler.Text

/-! ## Padded hexadecimal digits -/

theorem hexPadded_succ {width : Nat} (h : 0 < width) (n : Nat) :
    hexPadded (width + 1) n = hexPadded width (n / 16) ++ [(n % 16).digitChar] := by
  unfold hexPadded List.leftpad
  rcases Nat.lt_or_ge n 16 with hn | hn
  · have hzero : (0 : Nat).digitChar = '0' := rfl
    have hwidth : width - 1 + 1 = width := Nat.sub_add_cancel h
    rw [Nat.div_eq_of_lt hn, Nat.mod_eq_of_lt hn, hex_of_lt hn, hex_of_lt (by decide), hzero,
      List.length_singleton, List.length_singleton, Nat.add_sub_cancel, ← List.replicate_succ',
      hwidth]
  · rw [hex_of_le hn, List.length_append, List.length_singleton, Nat.add_sub_add_right,
      List.append_assoc]

theorem hexDigit?_digitChar {d : Nat} (h : d < 16) :
    (hexDigit? d.digitChar).filter (· < 16) = some d := by
  have hall : ∀ d < 16, (hexDigit? d.digitChar).filter (· < 16) = some d := by
    decide
  exact hall d h

/-- Padded digits have values, and these stand for the number. -/
theorem exists_digits_hexPadded {width : Nat} (h : 0 < width) {n : Nat} (hn : n < 16 ^ width) :
    ∃ digits : List Nat, digits.length = width ∧ digits.map Nat.digitChar = hexPadded width n ∧
      (∀ d ∈ digits, d < 16) ∧ digits.foldl (fun n d => 16 * n + d) 0 = n := by
  induction width, h using Nat.le_induction generalizing n with
  | base =>
    rw [Nat.pow_one] at hn
    refine ⟨[n], rfl, ?_, ?_, ?_⟩
    · unfold hexPadded
      rw [hex_of_lt hn]
      rfl
    · intro d hd
      rw [List.mem_singleton.mp hd]
      exact hn
    · rw [List.foldl_cons, List.foldl_nil, Nat.mul_zero, Nat.zero_add]
  | succ width hwidth ih =>
    obtain ⟨digits, hlength, hdigits, hbound, hvalue⟩ :=
      @ih (n / 16) (Nat.div_lt_of_lt_mul (by rwa [Nat.pow_succ'] at hn))
    refine ⟨digits ++ [n % 16], ?_, ?_, ?_, ?_⟩
    · rw [List.length_append, hlength, List.length_singleton]
    · rw [List.map_append, hdigits, hexPadded_succ hwidth]
      rfl
    · intro d hd
      rcases List.mem_append.mp hd with hd | hd
      · exact hbound d hd
      · rw [List.mem_singleton.mp hd]
        exact Nat.mod_lt _ (by decide)
    · rw [List.foldl_append, hvalue, List.foldl_cons, List.foldl_nil]
      exact Nat.div_add_mod n 16

/-- A number is read back from its padded digits. -/
theorem readDigits?_hexPadded {width : Nat} (h : 0 < width) {n : Nat} (hn : n < 16 ^ width)
    (rest : List Char) : readDigits? 16 width (hexPadded width n ++ rest) = some (n, rest) := by
  obtain ⟨digits, hlength, hdigits, hbound, hvalue⟩ := exists_digits_hexPadded h hn
  have hwidth : (hexPadded width n).length = width := by
    rw [← hdigits, List.length_map, hlength]
  have hread : (hexPadded width n).filterMap (fun c => (hexDigit? c).filter (· < 16)) = digits := by
    rw [← hdigits, List.filterMap_map]
    exact (List.filterMap_congr fun d hd => hexDigit?_digitChar (hbound d hd)).trans
      List.filterMap_some
  unfold readDigits?
  rw [List.take_left' hwidth, List.drop_left' hwidth, hread]
  dsimp only
  rw [if_pos hlength, hvalue]

/-! ## Characters between quotes -/

/-- Reads a character by the digits of its number. -/
def readNumbered (width : Nat) (s : List Char) : Option (Char × List Char) :=
  (readDigits? 16 width s).map fun (n, rest) => (Char.ofNat n, rest)

/-- Reads the character that is escaped by a backslash and a mark. -/
def readEscaped (mark : Char) (s : List Char) : Option (Char × List Char) :=
  match mark with
  | 'n' => some ('\n', s)
  | 'r' => some ('\r', s)
  | 't' => some ('\t', s)
  | 'x' => readNumbered 2 s
  | 'u' => readNumbered 4 s
  | 'U' => readNumbered 8 s
  | c => some (c, s)

/-- Reads one character between quotes, and what follows it. -/
def readShown : List Char → Option (Char × List Char)
  | [] => none
  | [c] => if c = '\\' then none else some (c, [])
  | c :: mark :: rest => if c = '\\' then readEscaped mark rest else some (c, mark :: rest)

theorem readShown_cons {c : Char} (h : c ≠ '\\') (rest : List Char) :
    readShown (c :: rest) = some (c, rest) := by
  cases rest <;> exact if_neg h

theorem readNumbered_hexPadded {width : Nat} (h : 0 < width) {c : Char}
    (hc : c.toNat < 16 ^ width) (rest : List Char) :
    readNumbered width (hexPadded width c.toNat ++ rest) = some (c, rest) := by
  unfold readNumbered
  rw [readDigits?_hexPadded h hc, Option.map_some]
  dsimp only
  rw [Char.ofNat_toNat]

/-- The quotes that a text can be shown in. -/
def IsQuote (quote : Char) : Prop :=
  quote = '\'' ∨ quote = '"'

theorem isQuote_quoteFor (s : List Char) : IsQuote (quoteFor s) := by
  unfold quoteFor
  split
  · exact .inr rfl
  · exact .inl rfl

section Showing

variable {quote : Char} (hquote : IsQuote quote)

include hquote

/-- A character is read back from what it is shown as. -/
theorem readShown_showChar (c : Char) (rest : List Char) :
    readShown (showChar quote c ++ rest) = some (c, rest) := by
  unfold showChar shortEscape?
  by_cases hescaped : c = '\\' ∨ c = quote
  · rw [if_pos hescaped]
    rcases hescaped with rfl | rfl
    · rfl
    · rcases hquote with rfl | rfl <;> rfl
  rw [if_neg hescaped]
  by_cases hfeed : c = '\n'
  · subst hfeed
    rfl
  rw [if_neg hfeed]
  by_cases hreturn : c = '\r'
  · subst hreturn
    rfl
  rw [if_neg hreturn]
  by_cases htab : c = '\t'
  · subst htab
    rfl
  rw [if_neg htab]
  dsimp only
  split
  · exact readShown_cons (fun h => hescaped (.inl h)) rest
  split
  case isTrue hbyte =>
    exact readNumbered_hexPadded (by decide) hbyte rest
  split
  case isTrue hplane =>
    exact readNumbered_hexPadded (by decide) hplane rest
  · have hvalid : c.toNat < 1114112 := by
      have h := c.valid
      unfold UInt32.isValidChar Nat.isValidChar at h
      unfold Char.toNat
      omega
    exact readNumbered_hexPadded (by decide) (by omega) rest

/-- Only the quote itself could be read back from what starts with the quote, and it is escaped. -/
theorem exists_showChar (c : Char) : ∃ d rest, showChar quote c = d :: rest ∧ d ≠ quote := by
  have hbackslash : quote ≠ '\\' := by
    rcases hquote with rfl | rfl <;> decide
  have hread := readShown_showChar hquote c []
  rcases hshown : showChar quote c with _ | ⟨d, rest⟩
  · rw [hshown] at hread
    cases hread
  · refine ⟨d, rest, rfl, ?_⟩
    rintro rfl
    rw [hshown, List.cons_append, readShown_cons hbackslash] at hread
    obtain ⟨rfl, _⟩ := Prod.mk.inj (Option.some.inj hread)
    unfold showChar shortEscape? at hshown
    rw [if_pos (.inr rfl)] at hshown
    exact hbackslash (List.cons.inj hshown).1.symm

/-- Characters up to a quote are told by what they are shown as. -/
theorem flatMap_showChar_inj {s t : List Char} {rest rest' : List Char}
    (h : s.flatMap (showChar quote) ++ quote :: rest =
      t.flatMap (showChar quote) ++ quote :: rest') : s = t ∧ rest = rest' := by
  induction s generalizing t with
  | nil =>
    cases t with
    | nil => exact ⟨rfl, (List.cons.inj h).2⟩
    | cons d t =>
      obtain ⟨e, more, hshown, he⟩ := exists_showChar hquote d
      rw [List.flatMap_cons, hshown] at h
      exact absurd (List.cons.inj h).1.symm he
  | cons c s ih =>
    cases t with
    | nil =>
      obtain ⟨e, more, hshown, he⟩ := exists_showChar hquote c
      rw [List.flatMap_cons, hshown] at h
      exact absurd (List.cons.inj h).1 he
    | cons d t =>
      rw [List.flatMap_cons, List.flatMap_cons, List.append_assoc, List.append_assoc] at h
      have hread := congrArg readShown h
      rw [readShown_showChar hquote, readShown_showChar hquote] at hread
      obtain ⟨rfl, hmore⟩ := Prod.mk.inj (Option.some.inj hread)
      obtain ⟨rfl, hrest⟩ := ih hmore
      exact ⟨rfl, hrest⟩

end Showing

/-! ## Texts in quotes -/

theorem toList_quoted (s : String) :
    (quoted s).toList = quoteFor s.toList ::
      (s.toList.flatMap (showChar (quoteFor s.toList)) ++ [quoteFor s.toList]) := by
  unfold quoted
  rw [String.toList_ofList, List.cons_append]

/-- A text in quotes tells the text, and where it ends. -/
theorem quoted_append_inj {s t : String} {rest rest' : List Char}
    (h : (quoted s).toList ++ rest = (quoted t).toList ++ rest') : s = t ∧ rest = rest' := by
  rw [toList_quoted, toList_quoted, List.cons_append, List.cons_append, List.append_assoc,
    List.append_assoc, List.singleton_append, List.singleton_append] at h
  obtain ⟨hquote, hbody⟩ := List.cons.inj h
  rw [hquote] at hbody
  obtain ⟨hlists, hrest⟩ := flatMap_showChar_inj (isQuote_quoteFor _) hbody
  exact ⟨String.toList_inj.mp hlists, hrest⟩

end SqlCompiler.Text
