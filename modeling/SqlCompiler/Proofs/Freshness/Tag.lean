import SqlCompiler.Freshness.Source
import SqlCompiler.Proofs.Digest.Base64
import SqlCompiler.Proofs.Text.Digits

/-!
# Tags

A tag has the size of a content and its digest. Neither is lost: the digits of the size end at the
first hyphen, and the characters that are cut off carry no bits of a digest of twenty bytes. So two
contents have one tag exactly if they have one size and one digest (`etagWith_eq_iff`).
-/

namespace SqlCompiler

theorem Sha1.length_digest (message : List UInt8) : (digest message).length = 20 := by
  have hword (n : Nat) : (bigEndian 4 n).length = 4 := by
    unfold bigEndian
    rw [List.length_map, List.length_range]
  unfold digest
  simp only [List.flatMap_cons, List.flatMap_nil, List.length_append, hword, List.length_nil]

namespace Freshness

/-- The digits of a size end at the first hyphen. -/
theorem hex_append_hyphen_inj {m n : Nat} {s t : List Char}
    (h : Text.hex m ++ '-' :: s = Text.hex n ++ '-' :: t) : m = n ∧ s = t := by
  have hdigits (k : Nat) : ∀ c ∈ Text.hex k, (c != '-') = true := by
    intro c hc
    rw [bne_iff_ne]
    rintro rfl
    exact Text.minus_not_mem_hex k hc
  have hsize := congrArg (List.takeWhile (· != '-')) h
  rw [List.takeWhile_append_of_pos (hdigits m), List.takeWhile_append_of_pos (hdigits n),
    List.takeWhile_cons, List.takeWhile_cons] at hsize
  have hsize := List.append_cancel_right hsize
  rw [hsize] at h
  exact ⟨Text.hex_inj.mp hsize, (List.cons.inj (List.append_cancel_left h)).2⟩

theorem toList_etagWith (digest : List UInt8 → List UInt8) (content : List UInt8) :
    (etagWith digest content).toList = '"' :: (Text.hex content.length ++
      '-' :: ((Base64.encode (digest content)).take 27 ++ ['"'])) := by
  have hhyphen : "-".toList = ['-'] := by decide
  have hquote : "\"".toList = ['"'] := by decide
  unfold etagWith
  simp only [String.toList_append, String.toList_ofList, hhyphen, hquote, List.append_assoc,
    List.cons_append, List.nil_append]

/-- Contents of one tag have one size and one digest. -/
theorem eq_of_etagWith_eq {digest : List UInt8 → List UInt8} (h : ∀ m, (digest m).length = 20)
    {x y : List UInt8} (htag : etagWith digest x = etagWith digest y) :
    x.length = y.length ∧ digest x = digest y := by
  have hparts := String.toList_inj.mpr htag
  rw [toList_etagWith, toList_etagWith] at hparts
  obtain ⟨hsize, hrest⟩ := hex_append_hyphen_inj (List.cons.inj hparts).2
  have hdigest := List.append_cancel_right hrest
  refine ⟨hsize, Base64.eq_of_take_encode_eq ((h x).trans (h y).symm) ?_ hdigest⟩
  rw [h x]
  decide

theorem digest_eq_of_etag_eq {x y : List UInt8} (h : etag x = etag y) :
    Sha1.digest x = Sha1.digest y :=
  (eq_of_etagWith_eq Sha1.length_digest h).2

/-- **Tags lose nothing.** Whatever digest of twenty bytes is used, two contents have one tag
exactly if they have one size and one digest. -/
theorem etagWith_eq_iff {digest : List UInt8 → List UInt8} (h : ∀ m, (digest m).length = 20)
    (x y : List UInt8) :
    etagWith digest x = etagWith digest y ↔ x.length = y.length ∧ digest x = digest y := by
  refine ⟨eq_of_etagWith_eq h, fun ⟨hsize, hdigest⟩ => ?_⟩
  unfold etagWith
  rw [hsize, hdigest]

/-- A digest of zeros up to the last byte, which is that of the content. -/
def lastByteDigest (content : List UInt8) : List UInt8 :=
  List.replicate 19 0 ++ [content.getLastD 0]

/-- Digests that differ in the very last bit give different tags. -/
theorem etagWith_lastByteDigest_ne :
    (∀ content, (lastByteDigest content).length = 20) ∧
      etagWith lastByteDigest [7, 0] ≠ etagWith lastByteDigest [7, 1] := by
  have hlength (content : List UInt8) : (lastByteDigest content).length = 20 := by
    unfold lastByteDigest
    rw [List.length_append, List.length_replicate, List.length_singleton]
  have hdigest : lastByteDigest [7, 0] ≠ lastByteDigest [7, 1] := by decide
  exact ⟨hlength, fun htag => hdigest ((etagWith_eq_iff hlength _ _).mp htag).2⟩

end Freshness

end SqlCompiler
