import SqlCompiler.Condition.Compile
import SqlCompiler.Proofs.Logic.Precedence

/-!
# Compiled conditions as tokens

A compiled condition is text. `ConditionTarget.tokens` is that text with its boolean structure
visible (`text_tokens`): each predicate, each constant and each verbatim piece is one atom, and an
atom that is not constant knows the place of its entry in the condition. No two atoms stand at the
same place (`nodup_places_tokens`).
-/

namespace SqlCompiler

open Logic (Token joined)

/-- Where an entry stands in a condition: the positions that lead to it from outside, of entries
and of combined conditions in turn. -/
abbrev Place := List Nat

/-! ## Compiled conditions as tokens -/

/-- An atom of a compiled condition: a constant, or the fragment of the entry at a place. -/
inductive Atom
  | constant (value : Bool)
  | entry (place : Place) (fragment : Sql.Fragment)

namespace Atom

/-- The text of an atom. -/
def text (quote : String) : Atom → String
  | constant value => if value then "TRUE" else "FALSE"
  | entry _ fragment => fragment.render quote

end Atom

/-- The text of a token. -/
def tokenText (quote : String) : Token Atom → String
  | .atom a => a.text quote
  | .and => " AND "
  | .or => " OR "
  | .opening => "("
  | .closing => ")"

/-- The text of a row of tokens. -/
def tokensText (quote : String) : List (Token Atom) → String
  | [] => ""
  | t :: ts => tokenText quote t ++ tokensText quote ts

/-- The token of a combinator. -/
def Combinator.token : Combinator → Token Atom
  | and => .and
  | or => .or

namespace ConditionTarget

/-- The atom of a predicate with its fragment. A membership in nothing is a constant. -/
def predicateAtom (place : Place) (f : Sql.Fragment) : Predicate → Atom
  | .isMember negated [] => .constant negated
  | _ => .entry place f

/-- The conjunction of rows of tokens; without any it is the constant `TRUE`. -/
def conjunctionTokens : List (List (Token Atom)) → List (Token Atom)
  | [] => [.atom (.constant true)]
  | tss => joined .and tss

mutual

/-- The tokens of an entry; none if nothing is asked. -/
def entryTokens (target : ConditionTarget) (place : Place) : Entry → Option (List (Token Atom))
  | .test column predicate =>
    (target.predicateFragment (columnPath column) predicate).map fun f =>
      [.atom (predicateAtom place f predicate)]
  | .verbatim sql => some [.atom (.entry place (parenthesized (.verbatim sql)))]
  | .combine _ [] => some [.atom (.constant true)]
  | .combine combinator children =>
    some (.opening :: (joined combinator.token (childTokens target place 0 children)
      ++ [.closing]))

/-- The tokens of the entries that ask for something. The first entry is the `i`th. -/
def entriesTokens (target : ConditionTarget) (place : Place) (i : Nat) :
    List Entry → List (List (Token Atom))
  | [] => []
  | entry :: rest =>
    match entryTokens target (place ++ [i]) entry with
    | some ts => ts :: entriesTokens target place (i + 1) rest
    | none => entriesTokens target place (i + 1) rest

/-- The tokens of combined conditions, of which the first is the `i`th. -/
def childTokens (target : ConditionTarget) (place : Place) (i : Nat) :
    List (List Entry) → List (List (Token Atom))
  | [] => []
  | child :: rest =>
    conjunctionTokens (entriesTokens target (place ++ [i]) 0 child)
      :: childTokens target place (i + 1) rest

end

/-- The tokens of a compiled condition. -/
def tokens (target : ConditionTarget) (condition : Condition) : List (Token Atom) :=
  conjunctionTokens (target.entriesTokens [] 0 condition)

end ConditionTarget

/-! ## The text of the tokens -/

variable {quote : String} {target : ConditionTarget}

theorem tokensText_append (ts us : List (Token Atom)) :
    tokensText quote (ts ++ us) = tokensText quote ts ++ tokensText quote us := by
  induction ts with
  | nil => exact (String.empty_append).symm
  | cons t ts ih =>
    rw [List.cons_append, tokensText, tokensText, ih, String.append_assoc]

theorem tokensText_singleton (t : Token Atom) : tokensText quote [t] = tokenText quote t :=
  String.append_empty

open Sql.Fragment (render renderAll interleave)

/-- Fragments and rows of tokens with the same texts have the same text when they are joined by a
token and its text. -/
theorem tokensText_joined {t : Token Atom} {fs : List Sql.Fragment}
    {tss : List (List (Token Atom))} (h : tss.map (tokensText quote) = fs.map (render quote)) :
    tokensText quote (joined t tss) =
      renderAll quote (interleave (.verbatim (tokenText quote t)) fs) := by
  induction fs generalizing tss with
  | nil =>
    rw [List.map_nil, List.map_eq_nil_iff] at h
    rw [h]
    rfl
  | cons f fs ih =>
    cases tss with
    | nil => cases h
    | cons ts tss =>
      rw [List.map_cons, List.map_cons, List.cons.injEq] at h
      obtain ⟨hf, hs⟩ := h
      cases fs with
      | nil =>
        rw [List.map_nil, List.map_eq_nil_iff] at hs
        rw [hs]
        show tokensText quote ts = render quote f ++ ""
        rw [hf, String.append_empty]
      | cons g fs =>
        cases tss with
        | nil => cases hs
        | cons us tss =>
          show tokensText quote (ts ++ t :: joined t (us :: tss)) =
            render quote f ++ (tokenText quote t ++ renderAll quote (interleave _ (g :: fs)))
          rw [tokensText_append, tokensText, ih hs, hf]

theorem Combinator.tokenText_token (combinator : Combinator) :
    tokenText quote combinator.token = " " ++ combinator.sql ++ " " := by
  cases combinator <;> rfl

namespace ConditionTarget

theorem text_conjunctionTokens {fs : List Sql.Fragment} {tss : List (List (Token Atom))}
    (h : tss.map (tokensText quote) = fs.map (render quote)) :
    tokensText quote (conjunctionTokens tss) = render quote (conjunction fs) := by
  cases fs with
  | nil =>
    rw [List.map_nil, List.map_eq_nil_iff] at h
    rw [h]
    rfl
  | cons f fs =>
    cases tss with
    | nil => cases h
    | cons ts tss => exact tokensText_joined h

theorem text_predicateAtom {column : List String} {predicate : Predicate} {f : Sql.Fragment}
    (place : Place) (hf : target.predicateFragment column predicate = some f) :
    (predicateAtom place f predicate).text quote = render quote f := by
  unfold predicateAtom
  split
  · rename_i negated
    cases hf
    cases negated <;> rfl
  · rfl

mutual

theorem text_entryTokens (place : Place) : ∀ entry : Entry,
    (target.entryTokens place entry).map (tokensText quote) =
      (target.entryFragment entry).map (render quote)
  | .test column predicate => by
    unfold entryTokens entryFragment
    rcases hf : target.predicateFragment (columnPath column) predicate with _ | f
    · rfl
    · show some (tokensText quote [_]) = some _
      rw [tokensText_singleton, ← text_predicateAtom place hf]
      rfl
  | .verbatim sql => by
    unfold entryTokens entryFragment
    rw [Option.map_some, Option.map_some, tokensText_singleton]
    rfl
  | .combine combinator [] => by
    unfold entryTokens entryFragment
    rw [Option.map_some, Option.map_some, tokensText_singleton]
    rfl
  | .combine combinator (child :: children) => by
    unfold entryTokens entryFragment
    have h := tokensText_joined (t := combinator.token)
      (text_childTokens place 0 (child :: children))
    rw [Combinator.tokenText_token] at h
    rw [Option.map_some, Option.map_some, tokensText, tokensText_append, tokensText_singleton, h]
    rfl

theorem text_entriesTokens (place : Place) : ∀ (i : Nat) (entries : List Entry),
    (target.entriesTokens place i entries).map (tokensText quote) =
      (target.entryFragments entries).map (render quote)
  | _, [] => by
    unfold entriesTokens entryFragments
    rfl
  | i, entry :: rest => by
    have h := text_entryTokens (place ++ [i]) entry
    have hs := text_entriesTokens place (i + 1) rest
    unfold entriesTokens entryFragments
    rcases hts : target.entryTokens (place ++ [i]) entry with _ | ts <;>
      rcases hf : target.entryFragment entry with _ | f <;>
      rw [hts, hf] at h
    · exact hs
    · cases h
    · cases h
    · rw [Option.map_some, Option.map_some, Option.some.injEq] at h
      rw [List.map_cons, List.map_cons, h, hs]

theorem text_childTokens (place : Place) : ∀ (i : Nat) (children : List (List Entry)),
    (target.childTokens place i children).map (tokensText quote) =
      (target.childFragments children).map (render quote)
  | _, [] => by
    unfold childTokens childFragments
    rfl
  | i, child :: rest => by
    unfold childTokens childFragments
    rw [List.map_cons, List.map_cons, text_childTokens place (i + 1) rest,
      text_conjunctionTokens (text_entriesTokens (place ++ [i]) 0 child)]

end

/-- The tokens are the text of the compiled condition. -/
theorem text_tokens (condition : Condition) :
    tokensText quote (target.tokens condition) = render quote (target.fragment condition) :=
  text_conjunctionTokens (text_entriesTokens [] 0 condition)

end ConditionTarget

/-! ## The places of the atoms -/

/-- The place of a token that is the atom of an entry. -/
def tokenPlace? : Token Atom → Option Place
  | .atom (.entry place _) => some place
  | _ => none

/-- The places of the entries among tokens, in order. -/
def places (ts : List (Token Atom)) : List Place :=
  ts.filterMap tokenPlace?

theorem places_joined {t : Token Atom} (ht : tokenPlace? t = none)
    (tss : List (List (Token Atom))) : places (joined t tss) = tss.flatMap places :=
  Logic.filterMap_joined ht tss

theorem places_conjunctionTokens (tss : List (List (Token Atom))) :
    places (ConditionTarget.conjunctionTokens tss) = tss.flatMap places := by
  cases tss with
  | nil => rfl
  | cons ts tss => exact places_joined rfl _

/-- Different places, all of them at or below the `i`th of a condition or behind it. -/
def FollowFrom (place : Place) (i : Nat) (ps : List Place) : Prop :=
  ps.Nodup ∧ ∀ q ∈ ps, ∃ k, i ≤ k ∧ place ++ [k] <+: q

/-- Different places, all of them at or below one. -/
def AreUnder (place : Place) (ps : List Place) : Prop :=
  ps.Nodup ∧ ∀ q ∈ ps, place <+: q

theorem areUnder_singleton (place : Place) : AreUnder place [place] := by
  refine ⟨List.pairwise_singleton _ _, fun q hq => ?_⟩
  obtain rfl := List.mem_singleton.mp hq
  exact List.prefix_refl q

theorem FollowFrom.areUnder {place : Place} {i : Nat} {ps : List Place}
    (h : FollowFrom place i ps) : AreUnder place ps := by
  refine ⟨h.1, fun q hq => ?_⟩
  obtain ⟨k, _, hk⟩ := h.2 q hq
  exact (List.prefix_append _ _).trans hk

theorem followFrom_nil (place : Place) (i : Nat) : FollowFrom place i [] :=
  ⟨List.nodup_nil, fun _ hq => absurd hq List.not_mem_nil⟩

theorem FollowFrom.of_succ {place : Place} {i : Nat} {ps : List Place}
    (h : FollowFrom place (i + 1) ps) : FollowFrom place i ps := by
  refine ⟨h.1, fun q hq => ?_⟩
  obtain ⟨k, hk, hq⟩ := h.2 q hq
  exact ⟨k, by omega, hq⟩

/-- Places at or below one are none of those behind it. -/
theorem AreUnder.append {place : Place} {i : Nat} {ps qs : List Place}
    (h : AreUnder (place ++ [i]) ps) (hs : FollowFrom place (i + 1) qs) :
    FollowFrom place i (ps ++ qs) := by
  refine ⟨List.nodup_append.mpr ⟨h.1, hs.1, ?_⟩, fun q hq => ?_⟩
  · rintro q hq _ hq' rfl
    -- A place below both would have two positions at the same depth.
    obtain ⟨k, hk, hqk⟩ := hs.2 q hq'
    have heq : place ++ [i] = place ++ [k] :=
      List.prefix_of_prefix_length_le (h.2 q hq) hqk (by simp) |>.eq_of_length (by simp)
    have : i = k := by simpa using heq
    omega
  · rcases List.mem_append.mp hq with hq | hq
    · exact ⟨i, Nat.le_refl i, h.2 q hq⟩
    · exact hs.of_succ.2 q hq

namespace ConditionTarget

mutual

theorem areUnder_entryTokens (place : Place) : ∀ {entry : Entry} {ts : List (Token Atom)},
    target.entryTokens place entry = some ts → AreUnder place (places ts)
  | .test column predicate, ts, h => by
    unfold entryTokens at h
    obtain ⟨f, _, rfl⟩ := Option.map_eq_some_iff.mp h
    unfold predicateAtom
    split
    · exact (followFrom_nil place 0).areUnder
    · exact areUnder_singleton place
  | .verbatim sql, ts, h => by
    unfold entryTokens at h
    cases h
    exact areUnder_singleton place
  | .combine combinator [], ts, h => by
    unfold entryTokens at h
    cases h
    exact (followFrom_nil place 0).areUnder
  | .combine combinator (child :: children), ts, h => by
    have hs := followFrom_childTokens place 0 (child :: children)
    unfold entryTokens at h
    cases h
    show AreUnder place (places (joined _ _ ++ [.closing]))
    unfold places
    rw [List.filterMap_append]
    show AreUnder place (places (joined _ _) ++ [])
    rw [List.append_nil, places_joined (by cases combinator <;> rfl)]
    exact hs.areUnder

theorem followFrom_entriesTokens (place : Place) : ∀ (i : Nat) (entries : List Entry),
    FollowFrom place i ((target.entriesTokens place i entries).flatMap places)
  | i, [] => by
    unfold entriesTokens
    exact followFrom_nil place i
  | i, entry :: rest => by
    have hs := followFrom_entriesTokens place (i + 1) rest
    unfold entriesTokens
    rcases h : target.entryTokens (place ++ [i]) entry with _ | ts
    · exact hs.of_succ
    · exact (areUnder_entryTokens (place ++ [i]) h).append hs

theorem followFrom_childTokens (place : Place) : ∀ (i : Nat) (children : List (List Entry)),
    FollowFrom place i ((target.childTokens place i children).flatMap places)
  | i, [] => by
    unfold childTokens
    exact followFrom_nil place i
  | i, child :: rest => by
    unfold childTokens
    rw [List.flatMap_cons, places_conjunctionTokens]
    exact (followFrom_entriesTokens (place ++ [i]) 0 child).areUnder.append
      (followFrom_childTokens place (i + 1) rest)

end

/-- No two atoms of a compiled condition stand at the same place. -/
theorem nodup_places_tokens (condition : Condition) : (places (target.tokens condition)).Nodup := by
  unfold tokens
  rw [places_conjunctionTokens]
  exact (followFrom_entriesTokens [] 0 condition).1

end ConditionTarget

end SqlCompiler
