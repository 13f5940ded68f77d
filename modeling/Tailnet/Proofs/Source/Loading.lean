import Tailnet.Proofs.Overlay.Stopping

/-!
What the author of a policy file is told of sections that have not their shape. The file alone is
always refused for a reason that is told. With an overlay that need not be so: the section may be
hidden, and then a source is read as if it were not there, or merging stops for a reason that is not
told.
-/

namespace Tailnet

namespace Source

open Overlay (FirstFails Fails Hides Stops Meeting)

/-- The source in a file without overlay. -/
def readAlone (halves : Text.Halves) (path : FilePath) (environment : Option String)
    (data : Mapping) : Except FileError Source :=
  (read data path.stem environment halves).mapError (.source path)

/-- The source in a file with an overlay. -/
def readOver (halves : Text.Halves) (path : FilePath) (environment : Option String)
    (base overlay : Mapping) : Except FileError Source := do
  readAlone halves path environment (← (Overlay.merge base overlay).mapError .overlay)

/-- There is no source, for a reason that is told. -/
def Told (result : Except FileError Source) : Prop :=
  ∃ error, result = .error error ∧ error.report?.isSome = true

section Load

variable {halves : Text.Halves} {tree : FileTree} {path : FilePath} {base : Mapping}

theorem load_eq_readAlone (h : baseData halves tree path = .ok base) :
    load tree path none halves = readAlone halves path none base := by
  rw [load, h]
  rfl

/-- A file is loaded for an environment that has an overlay by merging and reading. -/
theorem load_eq_readOver {environment : String} {place : FilePath} {overlay : Mapping}
    (hBase : baseData halves tree path = .ok base) (hNamed : environment ≠ "")
    (hPlace : overlayPath tree path environment = .ok (some place))
    (hOverlay : overlayData halves tree place (environmentName environment) = .ok overlay) :
    load tree path (some environment) halves =
      readOver halves path (some (environmentName environment)) base overlay := by
  have hChosen : (some environment).filter (· != "") = some environment := by
    simp [Option.filter, hNamed]
  have hData : withOverlay halves tree path environment base =
      (Overlay.merge base overlay).mapError .overlay := by
    rw [withOverlay, hPlace]
    change (overlayData halves tree place (environmentName environment) >>= fun above =>
      (Overlay.merge base above).mapError .overlay) = _
    rw [hOverlay, ok_bind]
  rw [load, hBase, ok_bind]
  simp only [hChosen, hData, Option.map_some, if_neg hNamed]
  rfl

end Load

variable {halves : Text.Halves} {base : Mapping}

theorem told_readAlone {data : Mapping} (h : Illegible data) (halves : Text.Halves)
    (path : FilePath) (environment : Option String) :
    Told (readAlone halves path environment data) := by
  obtain ⟨cause, hRead, hReported⟩ := exists_read_eq_error h path.stem environment halves
  refine ⟨.source path cause, by rw [readAlone, hRead]; rfl, ?_⟩
  change (if cause.isReported then some _ else none).isSome = true
  rw [if_pos hReported]
  rfl

/-- What is told of a file whose data has sections that have not their shape, with an overlay. -/
structure Verdict (halves : Text.Halves) (path : FilePath) (environment : Option String)
    (base overlay : Mapping) : Prop where
  /-- The file alone is refused for a reason that is told. -/
  alone : Told (readAlone halves path environment base)
  /-- With the overlay this is so exactly if the first section that cannot be merged, if there is
  one, fails for a reason that is told, and not all sections that have not their shape are hidden,
  unless what is read then is refused all the same. -/
  over_iff : Told (readOver halves path environment base overlay) ↔
    (∀ cause, FirstFails base overlay Overlay.sections cause → cause.isTold = true) ∧
    ((∀ name below, field? base name = some below → Misshapen name below →
        Meeting Hides base overlay name) →
      ∀ merged, Overlay.merge base overlay = .ok merged →
        Told (readAlone halves path environment merged))
  /-- A section that is hidden has its shape when the merged data is read. -/
  hidden : ∀ name, Meeting Hides base overlay name →
    ∀ merged, Overlay.merge base overlay = .ok merged →
      ∀ value, field? merged name = some value → ¬Misshapen name value
  /-- A section at which merging stops fails for a reason that is not told. -/
  stops : ∀ part ∈ Overlay.sections, Meeting Stops base overlay part.1 →
    ∃ cause, Fails base overlay part cause ∧ cause.isTold = false
  /-- Only such sections do, and mappings that are merged without end, and networks that cannot be
  shown. -/
  explained : ∀ part ∈ Overlay.sections, ∀ cause, Fails base overlay part cause →
    cause.isTold = true ∨ Meeting Stops base overlay part.1 ∨ cause = .endless ∨
      ∃ reason, cause = .shape (.conversion reason)

theorem told_readOver_iff_of_error {overlay : Mapping} {cause : OverlayError}
    (h : Overlay.merge base overlay = .error cause) (halves : Text.Halves) (path : FilePath)
    (environment : Option String) :
    Told (readOver halves path environment base overlay) ↔ cause.isTold = true := by
  rw [readOver, h]
  constructor
  · rintro ⟨error, hError, hReport⟩
    cases hError
    exact hReport
  · exact fun hReport => ⟨.overlay cause, rfl, hReport⟩

theorem readOver_of_ok {overlay merged : Mapping} (h : Overlay.merge base overlay = .ok merged)
    (halves : Text.Halves) (path : FilePath) (environment : Option String) :
    readOver halves path environment base overlay = readAlone halves path environment merged := by
  rw [readOver, h]
  rfl

theorem told_readOver_iff (overlay : Mapping) (halves : Text.Halves) (path : FilePath)
    (environment : Option String) :
    Told (readOver halves path environment base overlay) ↔
      (∀ cause, FirstFails base overlay Overlay.sections cause → cause.isTold = true) ∧
      ((∀ name below, field? base name = some below → Misshapen name below →
          Meeting Hides base overlay name) →
        ∀ merged, Overlay.merge base overlay = .ok merged →
          Told (readAlone halves path environment merged)) := by
  cases hMerge : Overlay.merge base overlay with
  | error cause =>
      have hFirst := Overlay.merge_eq_error_iff.mp hMerge
      rw [told_readOver_iff_of_error hMerge]
      constructor
      · exact fun h => ⟨fun other hOther => hFirst.unique hOther ▸ h, fun _ _ hOk => nomatch hOk⟩
      · exact fun h => h.1 cause hFirst
  | ok merged =>
      rw [readOver_of_ok hMerge]
      constructor
      · intro h
        refine ⟨fun cause hFirst => ?_, fun _ other hOther => Except.ok.inj hOther ▸ h⟩
        cases hMerge.symm.trans (Overlay.merge_eq_error_iff.mpr hFirst)
      · rintro ⟨-, h⟩
        by_cases hHidden : ∀ name below, field? base name = some below → Misshapen name below →
            Meeting Hides base overlay name
        · exact h hHidden merged rfl
        · push Not at hHidden
          obtain ⟨name, below, hBelow, hMisshapen, hShown⟩ := hHidden
          rcases Overlay.hidden_or_illegible hMerge hBelow hMisshapen with
            ⟨hHides, -⟩ | ⟨-, hIllegible⟩
          · exact absurd hHides hShown
          · exact told_readAlone hIllegible halves path environment

/-- Sections that have not their shape are told of, unless an overlay hides all of them or merging
stops before. -/
theorem verdict_of_misshapen
    (hBase : ∃ name below, field? base name = some below ∧ Misshapen name below)
    (overlay : Mapping) (halves : Text.Halves) (path : FilePath) (environment : Option String) :
    Verdict halves path environment base overlay where
  alone := by
    obtain ⟨name, below, hBelow, hMisshapen⟩ := hBase
    exact told_readAlone (hMisshapen.illegible hBelow) halves path environment
  over_iff := told_readOver_iff overlay halves path environment
  hidden name hHides merged hMerge := by
    obtain ⟨below, above, hBelow, hAbove, hMisshapen, hRelated⟩ := hHides
    rcases Overlay.hidden_or_illegible hMerge hBelow hMisshapen with ⟨-, hShape⟩ | ⟨hShown, -⟩
    · exact hShape
    · exact absurd ⟨below, above, hBelow, hAbove, hMisshapen, hRelated⟩ hShown
  stops part hPart hStops := by
    obtain ⟨below, above, hBelow, hAbove, hMisshapen, hStops⟩ := hStops
    obtain ⟨cause, hMerge, hUntold⟩ :=
      Overlay.untold_sections part hPart below above hMisshapen hStops
    exact ⟨cause, ⟨above, hAbove, by rw [hBelow]; exact hMerge⟩, hUntold⟩
  explained part hPart cause hFails := Overlay.explained_of_fails hPart hFails

/-- Hosts that are a text, and an overlay that speaks of groups. -/
theorem verdict_of_textHosts :
    let base := recordEntries [("hosts", .text "nas")]
    let overlay := recordEntries [("groups", .record [("ops", .texts ["ann"])])]
    (∃ name below, field? base name = some below ∧ Misshapen name below) ∧
      Told (readAlone .usual (.ofText "home.yaml") (some "dev") base) ∧
      Told (readOver .usual (.ofText "home.yaml") (some "dev") base overlay) := by
  intro base overlay
  have hHosts : field? base "hosts" = some (.text "nas") := rfl
  have hMisshapen : Misshapen "hosts" (.text "nas") := .mapping (by decide) rfl nofun
  have hBase : ∃ name below, field? base name = some below ∧ Misshapen name below :=
    ⟨_, _, hHosts, hMisshapen⟩
  have hVerdict := verdict_of_misshapen hBase overlay .usual (.ofText "home.yaml") (some "dev")
  refine ⟨hBase, hVerdict.alone, hVerdict.over_iff.mpr ⟨fun cause hFirst => ?_, fun hHidden => ?_⟩⟩
  · have hMerge : Overlay.merge base overlay = .ok (base ++ overlay) := rfl
    cases hMerge.symm.trans (Overlay.merge_eq_error_iff.mpr hFirst)
  · obtain ⟨_, above, -, hAbove, -⟩ := hHidden "hosts" _ hHosts hMisshapen
    cases hAbove

/-- Groups that are an empty list are hidden by an overlay that has groups, and with hosts that are
a number nobody is told why there is no source. -/
theorem exists_untold :
    let groups := recordEntries [("groups", .list [])]
    let hosts := recordEntries [("hosts", .int 5)]
    let above := recordEntries [("groups", .record []), ("hosts", .record [])]
    Misshapen "groups" (.list []) ∧ Misshapen "hosts" (.int 5) ∧
      (∃ source, readOver .usual (.ofText "home.yaml") (some "dev") groups above = .ok source) ∧
      readOver .usual (.ofText "home.yaml") (some "dev") hosts above =
        .error (.overlay (.pairs .unusable)) ∧
      ¬Told (readOver .usual (.ofText "home.yaml") (some "dev") hosts above) := by
  intro groups hosts above
  have hMerge : Overlay.merge hosts above = .error (.pairs .unusable) := rfl
  refine ⟨.mapping (by decide) rfl nofun, .mapping (by decide) rfl nofun,
    exists_eq_ok_iff.mpr (by decide +kernel), ?_, ?_⟩
  · rw [readOver, hMerge]
    rfl
  · rw [told_readOver_iff_of_error hMerge]
    exact Bool.false_ne_true

end Source

end Tailnet
