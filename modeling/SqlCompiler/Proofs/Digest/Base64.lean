import SqlCompiler.Digest.Base64

/-!
# Base64 is read back

A character of Base64 carries six bits, so bytes are determined by as many characters as have all
their bits, whatever is cut off behind them (`eq_of_take_encode_eq`).
-/

namespace SqlCompiler.Base64

theorem character_inj {m n : Nat} (hm : m < 64) (hn : n < 64) :
    character m = character n ↔ m = n := by
  have hall : ∀ m < 64, ∀ n < 64, character m = character n → m = n := by
    decide +kernel
  exact ⟨hall m hm n hn, congrArg _⟩

/-! ## Groups -/

theorem one_inj {a a' : UInt8} (hhigh : character (a.toNat * 16 / 64) = character (a'.toNat * 16 / 64))
    (hlow : character (a.toNat * 16 % 64) = character (a'.toNat * 16 % 64)) : a = a' := by
  have ha := a.toNat_lt
  have ha' := a'.toNat_lt
  rw [character_inj (by omega) (by omega)] at hhigh hlow
  exact UInt8.toNat_inj.mp (by omega)

theorem two_inj {a b a' b' : UInt8} {m n : Nat} (hm : m = (a.toNat * 256 + b.toNat) * 4)
    (hn : n = (a'.toNat * 256 + b'.toNat) * 4)
    (hhigh : character (m / 4096) = character (n / 4096))
    (hmiddle : character (m / 64 % 64) = character (n / 64 % 64))
    (hlow : character (m % 64) = character (n % 64)) : a = a' ∧ b = b' := by
  have ha := a.toNat_lt
  have hb := b.toNat_lt
  have ha' := a'.toNat_lt
  have hb' := b'.toNat_lt
  rw [character_inj (by omega) (by omega)] at hhigh hmiddle hlow
  have heq : m = n := by omega
  exact ⟨UInt8.toNat_inj.mp (by omega), UInt8.toNat_inj.mp (by omega)⟩

theorem three_inj {a b c a' b' c' : UInt8} {m n : Nat}
    (hm : m = (a.toNat * 256 + b.toNat) * 256 + c.toNat)
    (hn : n = (a'.toNat * 256 + b'.toNat) * 256 + c'.toNat)
    (hfirst : character (m / 262144) = character (n / 262144))
    (hsecond : character (m / 4096 % 64) = character (n / 4096 % 64))
    (hthird : character (m / 64 % 64) = character (n / 64 % 64))
    (hfourth : character (m % 64) = character (n % 64)) : a = a' ∧ b = b' ∧ c = c' := by
  have ha := a.toNat_lt
  have hb := b.toNat_lt
  have hc := c.toNat_lt
  have ha' := a'.toNat_lt
  have hb' := b'.toNat_lt
  have hc' := c'.toNat_lt
  rw [character_inj (by omega) (by omega)] at hfirst hsecond hthird hfourth
  have heq : m = n := by omega
  exact ⟨UInt8.toNat_inj.mp (by omega), UInt8.toNat_inj.mp (by omega),
    UInt8.toNat_inj.mp (by omega)⟩

/-! ## Texts -/

/-- Bytes are determined by the characters that have all their bits. -/
theorem eq_of_take_encode_eq {x y : List UInt8} {k : Nat} (hlength : x.length = y.length)
    (hk : 4 * x.length ≤ 3 * k) (h : (encode x).take k = (encode y).take k) : x = y := by
  induction x using encode.induct generalizing y k with
  | case1 => exact (List.length_eq_zero_iff.mp hlength.symm).symm
  | case2 a =>
    obtain ⟨a', rfl⟩ := List.length_eq_one_iff.mp hlength.symm
    obtain ⟨k, rfl⟩ : ∃ l, k = l + 2 := Nat.exists_eq_add_of_le' (by simp at hk; omega)
    simp only [encode, List.take_succ_cons, List.cons.injEq] at h
    obtain ⟨hhigh, hlow, _⟩ := h
    rw [one_inj hhigh hlow]
  | case3 a b =>
    obtain ⟨a', b', rfl⟩ : ∃ a' b', y = [a', b'] := by
      match y, hlength with
      | [a', b'], _ => exact ⟨a', b', rfl⟩
    obtain ⟨k, rfl⟩ : ∃ l, k = l + 3 := Nat.exists_eq_add_of_le' (by simp at hk; omega)
    simp only [encode, List.take_succ_cons, List.cons.injEq] at h
    obtain ⟨hhigh, hmiddle, hlow, _⟩ := h
    obtain ⟨rfl, rfl⟩ := two_inj rfl rfl hhigh hmiddle hlow
    rfl
  | case4 a b c rest ih =>
    obtain ⟨a', b', c', rest', rfl⟩ : ∃ a' b' c' rest', y = a' :: b' :: c' :: rest' := by
      match y, hlength with
      | a' :: b' :: c' :: rest', _ => exact ⟨a', b', c', rest', rfl⟩
    obtain ⟨k, rfl⟩ : ∃ l, k = l + 4 := Nat.exists_eq_add_of_le' (by simp at hk; omega)
    simp only [encode, List.take_succ_cons, List.cons.injEq] at h
    obtain ⟨hfirst, hsecond, hthird, hfourth, hrest⟩ := h
    obtain ⟨rfl, rfl, rfl⟩ := three_inj rfl rfl hfirst hsecond hthird hfourth
    rw [ih (by simpa using hlength) (by simp at hk; omega) hrest]

-- Twenty bytes need 27 characters: the 27th has the last bits.
example : (encode (List.replicate 19 0 ++ [0])).take 26 =
    (encode (List.replicate 19 0 ++ [1])).take 26 := by decide

end SqlCompiler.Base64
