import SqlCompiler.Freshness.Source
import SqlCompiler.Proofs.Files.Path

/-!
# Ids and the files they refer to

The id of a generated schema is the text of a path, a hash sign and a stamp, and both parts are
looked for at the first hash sign. So the id leads back to its file, and to its stamp, exactly if
the path has no hash sign in it (`sourcePath_schemaId_iff`, `stampOf_schemaId_iff`).
-/

namespace SqlCompiler

/-! ## Texts up to a mark -/

theorem takeWhile_append_mark (l r : List Char) :
    (l ++ '#' :: r).takeWhile (· != '#') = l.takeWhile (· != '#') := by
  induction l with
  | nil => rfl
  | cons c l ih =>
    rw [List.cons_append, List.takeWhile_cons, List.takeWhile_cons, ih]

theorem dropWhile_append_mark (l r : List Char) :
    (l ++ '#' :: r).dropWhile (· != '#') = l.dropWhile (· != '#') ++ '#' :: r := by
  induction l with
  | nil => rfl
  | cons c l ih =>
    rw [List.cons_append, List.dropWhile_cons, List.dropWhile_cons, ih]
    split <;> rfl

theorem mark_not_mem_takeWhile (l : List Char) : '#' ∉ l.takeWhile (· != '#') := by
  intro hmem
  have hall : ∀ c ∈ l.takeWhile (· != '#'), (c != '#') = true :=
    List.all_eq_true.mp List.all_takeWhile
  exact absurd (hall _ hmem) (by decide)

theorem takeWhile_eq_self_iff {l : List Char} : l.takeWhile (· != '#') = l ↔ '#' ∉ l := by
  constructor
  · intro h
    rw [← h]
    exact mark_not_mem_takeWhile l
  · intro h
    have hall : ∀ c ∈ l, (c != '#') = true := by
      intro c hc
      rw [bne_iff_ne]
      rintro rfl
      exact h hc
    have hwhole : (l ++ []).takeWhile (· != '#') = _ := List.takeWhile_append_of_pos hall
    rwa [List.append_nil, List.takeWhile_nil, List.append_nil] at hwhole

namespace Path

/-! ## Paths in ids -/

theorem isAbsolute_ofText_iff (s : String) :
    (ofText s).isAbsolute = true ↔ s.toList.head? = some '/' := by
  show (startOf s.toList != .current) = true ↔ _
  rw [bne_iff_ne]
  unfold startOf
  split
  · rename_i hs
    simp [hs]
  · rename_i hs
    simp [hs]
  · rename_i hs
    simp [hs]
  · rename_i hslash
    cases hs : s.toList with
    | nil => simp
    | cons c l =>
      refine iff_of_false (fun h => h rfl) fun h => ?_
      exact hslash l (by rw [hs, Option.some.inj h])

theorem names_eq_of_append_eq {base p q : Path} (hsame : p.isAbsolute = q.isAbsolute)
    (h : base / p = base / q) : p.names = q.names := by
  have h : append base p = append base q := h
  unfold append at h
  by_cases hp : p.isAbsolute = true
  · rw [if_pos hp, if_pos (hsame ▸ hp)] at h
    rw [h]
  · rw [if_neg hp, if_neg (hsame ▸ hp)] at h
    exact List.append_cancel_left (congrArg Path.names h)

/-- The path that is read from the text of a path up to its first hash sign. -/
def upToMark (p : Path) : Path :=
  ofText (String.ofList (p.text.toList.takeWhile (· != '#')))

theorem isAbsolute_upToMark {p : Path} (h : p.Normal) : p.upToMark.isAbsolute = p.isAbsolute := by
  have hhead : (p.text.toList.takeWhile (· != '#')).head? = some '/' ↔
      p.text.toList.head? = some '/' := by
    cases p.text.toList with
    | nil => exact Iff.rfl
    | cons c l =>
      rw [List.takeWhile_cons]
      by_cases hc : c = '#'
      · simp [hc]
      · rw [if_pos (bne_iff_ne.mpr hc)]
        rfl
  have hp : p.isAbsolute = true ↔ p.text.toList.head? = some '/' := by
    rw [← isAbsolute_ofText_iff, ofText_text h]
  rw [Bool.eq_iff_iff, hp, ← hhead]
  unfold upToMark
  rw [isAbsolute_ofText_iff, String.toList_ofList]

theorem upToMark_eq_self {p : Path} (h : p.Normal) (hmark : '#' ∉ p.text.toList) :
    p.upToMark = p := by
  unfold upToMark
  rw [takeWhile_eq_self_iff.mpr hmark, String.ofList_toList, ofText_text h]

/-- A path up to a hash sign is another path, wherever it is seen from. -/
theorem append_upToMark_iff {p : Path} (h : p.Normal) (base : Path) :
    base / p.upToMark = base / p ↔ '#' ∉ p.text.toList := by
  constructor
  · intro heq hmem
    have hnames := names_eq_of_append_eq (isAbsolute_upToMark h) heq
    rw [← ofText_text h] at hmem
    have hmem := (mem_text_ofText_iff (by decide) (by decide) p.text).mp hmem
    obtain ⟨name, hname, hmark⟩ := exists_mem_names_ofText (by decide) (by decide) hmem
    rw [ofText_text h, ← hnames] at hname
    have hprefix := Text.mem_of_mem_split (mem_names_ofText.mp hname).1 hmark
    rw [String.toList_ofList] at hprefix
    exact mark_not_mem_takeWhile _ hprefix
  · intro hmem
    rw [upToMark_eq_self h hmem]

end Path

namespace Freshness

/-! ## Ids -/

theorem afterStart?_append (start s : String) : afterStart? start (start ++ s) = some s := by
  have hprefix : start.toList.isPrefixOf (start ++ s).toList = true := by
    rw [List.isPrefixOf_iff_prefix, String.toList_append]
    exact List.prefix_append _ _
  unfold afterStart?
  rw [if_pos hprefix, String.toList_append, ← String.length_toList, List.drop_left,
    String.ofList_toList]

theorem ne_mark_of_mem_scheme {scheme : String} (h : scheme ∈ [fileScheme, relativeScheme]) :
    ∀ c ∈ scheme.toList, (c != '#') = true := by
  have hall : ∀ scheme ∈ [fileScheme, relativeScheme], '#' ∉ scheme.toList := by decide
  intro c hc
  rw [bne_iff_ne]
  rintro rfl
  exact hall scheme h hc

theorem location_schemaId (file : Path) (now : Instant) : location (schemaId file now) =
    (if file.isAbsolute then fileScheme else relativeScheme) ++
      String.ofList (file.text.toList.takeWhile (· != '#')) := by
  have hmark : "#".toList = ['#'] := by decide
  have hplain : ∀ scheme ∈ [fileScheme, relativeScheme], ∀ l : List Char,
      (scheme.toList ++ l).takeWhile (· != '#') =
        scheme.toList ++ l.takeWhile (· != '#') := by
    intro scheme hscheme l
    exact List.takeWhile_append_of_pos (ne_mark_of_mem_scheme hscheme)
  unfold location schemaId
  rw [← String.toList_inj, String.toList_ofList]
  simp only [String.toList_append, hmark, List.append_assoc, List.singleton_append,
    String.toList_ofList]
  split
  · rw [hplain _ List.mem_cons_self, takeWhile_append_mark]
  · rw [hplain _ (List.mem_cons_of_mem _ List.mem_cons_self), takeWhile_append_mark]

/-- The id of an absolute file leads to its path up to the first hash sign. -/
theorem sourcePath_schemaId_of_isAbsolute {file : Path} (h : file.Normal) (now : Instant)
    (base : Option BaseDirectory) (hfile : file.isAbsolute = true) :
    sourcePath (schemaId file now) base = .ok file.upToMark := by
  have hhead : (file.text.toList.takeWhile (· != '#')).head? = some '/' := by
    have habsolute := (Path.isAbsolute_upToMark h).trans hfile
    have hupTo := (Path.isAbsolute_ofText_iff _).mp habsolute
    rwa [String.toList_ofList] at hupTo
  -- The path starts with a slash, and the scheme of relative ones goes on with a dot.
  have hother : afterStart? relativeScheme
      (fileScheme ++ String.ofList (file.text.toList.takeWhile (· != '#'))) = none := by
    unfold afterStart?
    rw [if_neg]
    intro hprefix
    rw [List.isPrefixOf_iff_prefix] at hprefix
    have hscheme : relativeScheme.toList = fileScheme.toList ++ ['.', '/'] := by decide
    rw [String.toList_append, String.toList_ofList, hscheme,
      List.prefix_append_right_inj] at hprefix
    obtain ⟨rest, hrest⟩ := hprefix
    rw [← hrest] at hhead
    exact absurd hhead (by simp)
  unfold sourcePath
  rw [location_schemaId, if_pos hfile, hother]
  dsimp only
  rw [afterStart?_append]
  rfl

/-- The id of a relative file leads to its path up to the first hash sign below the base directory,
which must be absolute. -/
theorem sourcePath_schemaId_eq_ok_iff {file path : Path} {now : Instant}
    {base : Option BaseDirectory} (hfile : ¬ file.isAbsolute = true) :
    sourcePath (schemaId file now) base = .ok path ↔
      ∃ b, base = some b ∧ b.toPath.isAbsolute = true ∧ path = b.toPath / file.upToMark := by
  unfold sourcePath
  rw [location_schemaId, if_neg hfile, afterStart?_append]
  dsimp only
  cases base with
  | none => exact iff_of_false nofun fun ⟨_, hbase, _⟩ => nomatch hbase
  | some b =>
    dsimp only
    by_cases hbase : b.toPath.isAbsolute = true
    · rw [if_pos hbase]
      constructor
      · intro h
        exact ⟨b, rfl, hbase, (Except.ok.inj h).symm⟩
      · rintro ⟨_, hb, _, rfl⟩
        cases hb
        rfl
    · rw [if_neg hbase]
      refine iff_of_false nofun ?_
      rintro ⟨_, hb, habsolute, _⟩
      cases hb
      exact hbase habsolute

/-- An id leads to its path up to the first hash sign. -/
theorem sourcePath_schemaId {file : Path} (h : file.Normal) (now : Instant) {base : BaseDirectory}
    (hbase : base.toPath.isAbsolute = true) :
    sourcePath (schemaId file now) (some base) = .ok (base.toPath / file.upToMark) := by
  by_cases hfile : file.isAbsolute = true
  · have hroot : base.toPath / file.upToMark = file.upToMark :=
      if_pos ((Path.isAbsolute_upToMark h).trans hfile)
    rw [sourcePath_schemaId_of_isAbsolute h now _ hfile, hroot]
  · exact (sourcePath_schemaId_eq_ok_iff hfile).mpr ⟨base, rfl, hbase, rfl⟩

/-- **Files of ids.** An id leads to its file exactly if the path has no hash sign. -/
theorem sourcePath_schemaId_iff {file : Path} (h : file.Normal) (now : Instant)
    {base : BaseDirectory} (hbase : base.toPath.isAbsolute = true) :
    sourcePath (schemaId file now) (some base) = .ok (base.toPath / file) ↔
      '#' ∉ file.text.toList := by
  rw [sourcePath_schemaId h now hbase, Except.ok.injEq]
  exact Path.append_upToMark_iff h base.toPath

/-- **Stamps of ids.** The stamp is read from an id exactly if the path has no hash sign. -/
theorem stampOf_schemaId_iff (file : Path) (now : Instant) :
    stampOf (schemaId file now) = now.stamp ↔ '#' ∉ file.text.toList := by
  have hmark : "#".toList = ['#'] := by decide
  have hplain : ∀ scheme ∈ [fileScheme, relativeScheme], ∀ l : List Char,
      (scheme.toList ++ l).dropWhile (· != '#') = l.dropWhile (· != '#') := by
    intro scheme hscheme l
    exact List.dropWhile_append_of_pos (ne_mark_of_mem_scheme hscheme)
  have hstamp : (stampOf (schemaId file now)).toList =
      (file.text.toList.dropWhile (· != '#') ++ '#' :: now.stamp.toList).drop 1 := by
    unfold stampOf schemaId
    simp only [String.toList_append, hmark, List.append_assoc, List.singleton_append,
      String.toList_ofList]
    split
    · rw [hplain _ List.mem_cons_self, dropWhile_append_mark]
    · rw [hplain _ (List.mem_cons_of_mem _ List.mem_cons_self), dropWhile_append_mark]
  rw [← String.toList_inj, hstamp, ← takeWhile_eq_self_iff]
  have hsplit := List.takeWhile_append_dropWhile (p := (· != '#')) (l := file.text.toList)
  cases hrest : file.text.toList.dropWhile (· != '#') with
  | nil =>
    rw [hrest, List.append_nil] at hsplit
    exact iff_of_true rfl hsplit
  | cons c rest =>
    rw [hrest] at hsplit
    refine iff_of_false (fun h => ?_) fun h => ?_
    · have hlength := congrArg List.length h
      rw [List.cons_append, List.drop_one, List.tail_cons, List.length_append,
        List.length_cons] at hlength
      omega
    · rw [h] at hsplit
      have hlength := congrArg List.length hsplit
      rw [List.length_append, List.length_cons] at hlength
      omega

end Freshness

end SqlCompiler
