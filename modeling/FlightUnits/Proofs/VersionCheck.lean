import FlightUnits.Proofs.VersionSetting

/-!
# The check before the version is set

The check refuses every text but the well-formed versions and those with one line feed after them.
The version line that a run leaves in a file stands on one line for the first, and goes on to a
second line for the others.
-/

namespace FlightUnits.Release

variable {version : String} {dryRun : Bool} {s s' : Sources} {changed : List SourceFile}

lemma bump_eq_invalidVersion_iff :
    (bump version dryRun s).2 = .error (.invalidVersion version) ↔ ¬ isVersion version := by
  unfold bump
  split
  next hversion =>
    -- past the check, a run stops with a fault that is about a file
    refine iff_of_false (fun hfault => ?_) (not_not_intro hversion)
    obtain ⟨done, file, rest, changed, -, hfile, -⟩ :=
      exists_of_bumpFiles_error (Prod.ext rfl hfault)
    cases hfile
  next hversion => exact iff_of_true rfl hversion

/-- A run that comes to its end leaves the plain line of the version in every file. -/
lemma firstVersionLine_of_bump (h : bump version false s = (s', .ok changed)) (file : SourceFile) :
    ∃ text before after, s'.read? file = some text ∧
      FirstVersionLine file.key.toList true text before
        (versionLine file.key.toList version.toList) after := by
  obtain ⟨hversion, hrun⟩ := isVersion_of_bump h
  have hbumped := isBumped_of_bumpFiles hversion nodup_all hrun
  obtain ⟨text, -, -, ⟨before, line, after, hfirst, rfl⟩, hread⟩ :=
    hbumped.replaced file (mem_all file)
  exact ⟨_, before, after, hread,
    hfirst.replace (isKey_key file) (isVersionLine_versionLine hversion _)⟩

lemma isOnOneLine_versionLine (file : SourceFile) (h : IsWellFormed version.toList) :
    IsOnOneLine (versionLine file.key.toList version.toList) := by
  intro c hc hspace
  -- of key, sign, version and quote, only the sign has spaces, and these are plain
  simp only [versionLine, List.mem_append] at hc
  rcases hc with ((hkey | hsign) | hversion) | hquote
  · rw [(isKey_key file).not_mem_space c hkey] at hspace
    cases hspace
  · have hsign : c = ' ' ∨ c = '=' ∨ c = ' ' ∨ c = '"' := by simpa using hsign
    rcases hsign with rfl | rfl | rfl | rfl
    · rfl
    · exact absurd hspace (by decide)
    · rfl
    · exact absurd hspace (by decide)
  · rw [h.isSpace_eq_false c hversion] at hspace
    cases hspace
  · obtain rfl := List.mem_singleton.mp hquote
    exact absurd hspace (by decide)

lemma isOnOneLine_versionLine_iff (file : SourceFile) (h : isVersion version) :
    IsOnOneLine (versionLine file.key.toList version.toList) ↔ IsWellFormed version.toList := by
  refine ⟨fun hline => ?_, isOnOneLine_versionLine file⟩
  rcases isVersion_iff.mp h with hform | ⟨plain, -, hbreak⟩
  · exact hform
  · have hmem : '\n' ∈ versionLine file.key.toList version.toList := by
      simp [versionLine, hbreak]
    exact absurd (hline _ hmem (by decide)) (by decide)

/--
Setting a version gets past the check just when the text is a well-formed version, or one with a
line feed after it. When it comes to its end, the first version line of every file is the plain one
of the text, and it stands on one line just when the text is a well-formed version.
-/
theorem bump_check_exact (version : String) (s : Sources) :
    (∀ dryRun, (bump version dryRun s).2 ≠ .error (.invalidVersion version) ↔
      IsWellFormed version.toList ∨
        ∃ plain, IsWellFormed plain ∧ version.toList = plain ++ ['\n']) ∧
    ∀ s' changed, bump version false s = (s', .ok changed) →
      ∀ file, ∃ text before line after, s'.read? file = some text ∧
        FirstVersionLine file.key.toList true text before line after ∧
        line = versionLine file.key.toList version.toList ∧
        (IsOnOneLine line ↔ IsWellFormed version.toList) := by
  refine ⟨fun dryRun => ?_, fun s' changed h file => ?_⟩
  · rw [Ne, bump_eq_invalidVersion_iff, not_not, isVersion_iff]
  · obtain ⟨text, before, after, hread, hfirst⟩ := firstVersionLine_of_bump h file
    obtain ⟨hversion, -⟩ := isVersion_of_bump h
    exact ⟨text, before, _, after, hread, hfirst, rfl, isOnOneLine_versionLine_iff file hversion⟩

/-- A version line on one line, and one that goes on to a second. -/
theorem bump_check_exact_lineFeed :
    (∃ s' : Sources, bump "0.2.0-rc.1" false ⟨some "__version__ = \"0.1.0\"\n",
        some "version = \"0.1.0\"\n"⟩ = (s', .ok [.package, .project]) ∧
      ∃ text before line after, s'.read? .package = some text ∧
        FirstVersionLine "__version__".toList true text before line after ∧ IsOnOneLine line) ∧
    ∃ s' : Sources, bump "0.2.0\n" false ⟨some "__version__ = \"0.1.0\"\n",
        some "version = \"0.1.0\"\n"⟩ = (s', .ok [.package, .project]) ∧
      ∃ text before line after, s'.read? .package = some text ∧
        FirstVersionLine "__version__".toList true text before line after ∧
        ¬ IsOnOneLine line := by
  have hrun : bump "0.2.0-rc.1" false ⟨some "__version__ = \"0.1.0\"\n",
      some "version = \"0.1.0\"\n"⟩ = (⟨some "__version__ = \"0.2.0-rc.1\"\n",
        some "version = \"0.2.0-rc.1\"\n"⟩, .ok [.package, .project]) := rfl
  have hbreak : bump "0.2.0\n" false ⟨some "__version__ = \"0.1.0\"\n",
      some "version = \"0.1.0\"\n"⟩ = (⟨some "__version__ = \"0.2.0\n\"\n",
        some "version = \"0.2.0\n\"\n"⟩, .ok [.package, .project]) := rfl
  have hform : IsWellFormed "0.2.0-rc.1".toList := isPlainVersion_iff.mp rfl
  have hform' : ¬ IsWellFormed "0.2.0\n".toList := fun h => by
    cases isPlainVersion_iff.mpr h
  constructor
  · obtain ⟨text, before, line, after, hread, hfirst, -, hline⟩ :=
      (bump_check_exact _ _).2 _ _ hrun .package
    exact ⟨_, hrun, text, before, line, after, hread, hfirst, hline.mpr hform⟩
  · obtain ⟨text, before, line, after, hread, hfirst, -, hline⟩ :=
      (bump_check_exact _ _).2 _ _ hbreak .package
    exact ⟨_, hbreak, text, before, line, after, hread, hfirst, mt hline.mp hform'⟩

/-- A version with a line feed after it is not refused. -/
theorem not_isWellFormed_of_bump :
    ¬ ∀ (version : String) (dryRun : Bool) (s : Sources),
      (bump version dryRun s).2 ≠ .error (.invalidVersion version) →
      IsWellFormed version.toList := by
  intro h
  have hpassed : (bump "0.2.0\n" true ⟨none, none⟩).2 ≠ .error (.invalidVersion "0.2.0\n") := by
    decide
  have hform := isPlainVersion_iff.mpr (h _ _ _ hpassed)
  cases hform

end FlightUnits.Release
