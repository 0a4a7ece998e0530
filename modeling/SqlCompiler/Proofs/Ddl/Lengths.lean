import SqlCompiler.Ddl.Table
import SqlCompiler.Proofs.Log.Outcome
import SqlCompiler.Proofs.Text.Digits

/-!
# Lengths of texts

A text column has a length, its own or that of the settings, and a dialect may have a threshold
above which texts have a type without a length. But only the length that a column declares is held
against the threshold. So a length above it is written exactly if the column declares none and that
of the settings is too long (`columnType_fits_iff`).
-/

namespace SqlCompiler

namespace Column

/-- The column says nothing about its length: it declares none, or zero. -/
def LeavesLength (c : Column) : Prop :=
  c.maxLength = none ∨ c.maxLength = some 0

/-- The length that the texts of a column may have: the declared one, or that of the settings. -/
def textLength (settings : CompilerSettings) (c : Column) : Int :=
  match c.maxLength with
  | none | some 0 => settings.defaultStringLength
  | some (n + 1) => n + 1

theorem textLength_of_leavesLength (settings : CompilerSettings) {c : Column}
    (h : c.LeavesLength) : c.textLength settings = settings.defaultStringLength := by
  unfold textLength
  rcases h with h | h <;> rw [h]

/-- A column leaves its length to the settings, or declares one. -/
theorem leavesLength_or (settings : CompilerSettings) (c : Column) :
    c.LeavesLength ∨ ¬ c.LeavesLength ∧
      c.maxLength.map Int.ofNat = some (c.textLength settings) := by
  unfold LeavesLength textLength
  cases c.maxLength with
  | none => exact .inl (.inl rfl)
  | some n =>
    cases n with
    | zero => exact .inl (.inr rfl)
    | succ n => exact .inr ⟨by simp, rfl⟩

end Column

namespace Ddl

/-- A type is that of texts of a length above a threshold. -/
def IsOverlong (threshold : Int) (type : String) : Prop :=
  ∃ n, threshold < n ∧ type = sized "VARCHAR" n

theorem isOverlong_sized_iff {threshold n : Int} :
    IsOverlong threshold (sized "VARCHAR" n) ↔ threshold < n := by
  refine ⟨fun ⟨m, hm, heq⟩ => ?_, fun h => ⟨n, h, rfl⟩⟩
  unfold sized at heq
  rw [String.append_left_inj, String.append_right_inj, Text.intText_inj] at heq
  rwa [heq]

theorem text_ne_sized (n : Int) : "TEXT" ≠ sized "VARCHAR" n := by
  intro h
  have htext : "TEXT".toList = 'T' :: "EXT".toList := by decide
  have hsized : "VARCHAR".toList = 'V' :: "ARCHAR".toList := by decide
  have hlists := congrArg String.toList h
  unfold sized at hlists
  rw [String.toList_append, String.toList_append, String.toList_append, htext, hsized] at hlists
  exact absurd (List.cons.inj hlists).1 (by decide)

namespace Target

/-- A text column has the type of long texts or that of texts of its length. -/
theorem columnType_of_string (t : Target) {c : Column} (h : c.type = .string) :
    t.columnType c =
      if t.profile.promotesToText (c.maxLength.map Int.ofNat) then t.profile.textType
      else sized (t.profile.typeName .string) (c.textLength t.settings) := by
  have hnumbers : c.isAutoIncrement = false := by
    unfold Column.isAutoIncrement
    rw [h]
    exact Bool.and_false _
  unfold columnType Column.textLength
  dsimp only
  rw [hnumbers, h, if_pos rfl]
  rcases c.maxLength with _ | _ | n <;> rfl

section

variable {d : Dialect} {settings : CompilerSettings} {c : Column} {threshold : Int}

/-- The types of a dialect with a threshold, which is not negative. -/
theorem profile_of_textThreshold (h : d.profile.textThreshold = some threshold) :
    d.profile.typeName .string = "VARCHAR" ∧ d.profile.textType = "TEXT" ∧ 0 ≤ threshold := by
  cases d with
  | mysql =>
    obtain rfl : 16383 = threshold := Option.some.inj h
    exact ⟨rfl, rfl, by decide⟩
  | postgres => cases h
  | sqlite => cases h

theorem columnType_of_leavesLength (hthreshold : d.profile.textThreshold = some threshold)
    (hstring : c.type = .string) (h : c.LeavesLength) :
    columnType ⟨d.profile, settings⟩ c = sized "VARCHAR" settings.defaultStringLength := by
  obtain ⟨hname, -, hnonneg⟩ := profile_of_textThreshold hthreshold
  have hstays : d.profile.promotesToText (c.maxLength.map Int.ofNat) = false := by
    unfold Profile.promotesToText
    rw [hthreshold]
    rcases h with h | h <;> rw [h]
    · rfl
    · exact decide_eq_false (Int.not_lt.mpr hnonneg)
  rw [columnType_of_string _ hstring, hstays, if_neg Bool.false_ne_true, hname,
    Column.textLength_of_leavesLength settings h]

theorem columnType_of_maxLength (hthreshold : d.profile.textThreshold = some threshold)
    (hstring : c.type = .string) (h : c.maxLength.map Int.ofNat = some (c.textLength settings)) :
    columnType ⟨d.profile, settings⟩ c =
      if threshold < c.textLength settings then "TEXT"
      else sized "VARCHAR" (c.textLength settings) := by
  obtain ⟨hname, htext, -⟩ := profile_of_textThreshold hthreshold
  have hpromotes : d.profile.promotesToText (c.maxLength.map Int.ofNat) =
      decide (threshold < c.textLength settings) := by
    unfold Profile.promotesToText
    rw [hthreshold, h]
  rw [columnType_of_string _ hstring, hpromotes, hname, htext]
  simp only [decide_eq_true_eq]

/-- **Lengths fit.** In a dialect with a threshold, the type of a text column has no length above
the threshold, and is that of long texts if the length of the column is above it, exactly unless the
column leaves its length to settings that have one above it. -/
theorem columnType_fits_iff (hthreshold : d.profile.textThreshold = some threshold)
    (settings : CompilerSettings) (hstring : c.type = .string) :
    (¬ IsOverlong threshold (columnType ⟨d.profile, settings⟩ c) ∧
        (threshold < c.textLength settings →
          columnType ⟨d.profile, settings⟩ c = d.profile.textType)) ↔
      ¬ (c.LeavesLength ∧ threshold < settings.defaultStringLength) := by
  obtain ⟨-, htext, -⟩ := profile_of_textThreshold hthreshold
  rcases c.leavesLength_or settings with hleaves | ⟨hdeclares, hlength⟩
  · rw [columnType_of_leavesLength hthreshold hstring hleaves, isOverlong_sized_iff,
      Column.textLength_of_leavesLength settings hleaves]
    exact ⟨fun ⟨hfits, _⟩ ⟨_, hlong⟩ => hfits hlong,
      fun h => ⟨fun hlong => h ⟨hleaves, hlong⟩, fun hlong => absurd ⟨hleaves, hlong⟩ h⟩⟩
  · rw [columnType_of_maxLength hthreshold hstring hlength, htext]
    refine iff_of_true ?_ fun h => hdeclares h.1
    split
    · exact ⟨fun ⟨n, _, heq⟩ => text_ne_sized n heq, fun _ => rfl⟩
    · rename_i hshort
      exact ⟨fun hlong => hshort (isOverlong_sized_iff.mp hlong), fun hlong => absurd hlong hshort⟩

end

/-- Settings with a length that is too long for MySQL. -/
def wideSettings : CompilerSettings :=
  { defaultStringLength := 20000 }

/-- A text of a declared length above the threshold, with other settings than the built-in ones. -/
theorem columnType_fits_body :
    Dialect.mysql.profile.textThreshold = some 16383 ∧
      ({ maxLength := some 16384 } : Column).type = .string ∧
      (¬ IsOverlong 16383
          (columnType ⟨Dialect.mysql.profile, wideSettings⟩ { maxLength := some 16384 }) ∧
        (16383 < Column.textLength wideSettings { maxLength := some 16384 } →
          columnType ⟨Dialect.mysql.profile, wideSettings⟩ { maxLength := some 16384 } =
            "TEXT")) := by
  refine ⟨rfl, rfl, (columnType_fits_iff rfl wideSettings rfl).mpr ?_⟩
  unfold Column.LeavesLength
  decide

/-- The environment may ask for such a length, and a column that declares none gets it. -/
theorem columnType_wideSettings :
    Environment.compilerSettings [("DBX_DEFAULT_STRING_LENGTH", "20000")] = .ok wideSettings ∧
      Dialect.mysql.profile.textThreshold = some 16383 ∧
      (statements ⟨Dialect.mysql.profile, wideSettings⟩
          { table := some "t", columns := [("a", {})] } none).outcome .empty =
        .ok ["CREATE TABLE IF NOT EXISTS t (\n    a VARCHAR(20000)\n);"] ∧
      IsOverlong 16383 (columnType ⟨Dialect.mysql.profile, wideSettings⟩ {}) := by
  have hlong : IsOverlong 16383 (sized "VARCHAR" wideSettings.defaultStringLength) :=
    isOverlong_sized_iff.mpr (by decide)
  refine ⟨Log.eq_ok_of_toOption (by decide), rfl, Log.eq_ok_of_toOption (by decide +kernel), ?_⟩
  have hthreshold : Dialect.mysql.profile.textThreshold = some 16383 := rfl
  rwa [columnType_of_leavesLength hthreshold rfl (.inl rfl)]

end Target

end Ddl

end SqlCompiler
