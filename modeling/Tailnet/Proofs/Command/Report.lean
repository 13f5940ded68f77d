import Tailnet.Command.Summary
import Tailnet.Proofs.Json.Writer
import Tailnet.Proofs.Plan.Application

/-!
Reports of plans and of dry runs. They can always be put on a page, and those of dry runs have a
JSON text.
-/

namespace Tailnet

open Terminal

namespace Plan

theorem isShort_dnsSummary (change : DnsChange) : (dnsSummary change).isShort = true := by
  have hPayload : ∀ field ∈ change.payload, field.2.isShort = true := by
    cases change with
    | preferences magicDns => exact List.forall_mem_singleton.mpr rfl
    | searchPaths paths => exact List.forall_mem_singleton.mpr (Value.isShort_texts paths)
    | nameservers servers => exact List.forall_mem_singleton.mpr (Value.isShort_texts servers)
    | splitDns routes => exact List.forall_mem_map.mpr fun route _ => Value.isShort_texts route.2
  rw [dnsSummary, Value.isShort, Value.entriesShort_iff]
  exact Table.forall_mem_update (P := fun key : Scalar => key.isShort = true)
    (Q := fun value : Value => value.isShort = true) (List.forall_mem_singleton.mpr ⟨rfl, rfl⟩)
    (List.forall_mem_map.mpr fun field hField => ⟨rfl, hPayload field hField⟩)

theorem exists_fieldText {value : Value} (h : value.isShort = true) (name : String) :
    ∃ text, Summary.fieldText name value = .ok text := by
  cases value with
  | map entries =>
      rw [Value.isShort, Value.entriesShort_iff] at h
      refine Value.exists_display_iff.mpr ?_
      cases hFound : Table.get? entries (.text name) with
      | none => rfl
      | some found =>
          obtain ⟨key, hEntry⟩ := Table.exists_mem_of_get? hFound
          exact (h _ hEntry).2
  | _ => exact ⟨"", rfl⟩

/-- Everything in a plan can be put on a page. -/
theorem exists_ofPlan (plan : Plan) : ∃ page, Summary.ofPlan plan = .ok page := by
  have hDns : ∃ lines, Summary.dnsSection plan = .ok lines := by
    unfold Summary.dnsSection
    cases plan.dns with
    | none => exact ⟨_, rfl⟩
    | some changes =>
        have hEach : ∀ change ∈ changes, ∃ text,
            Summary.fieldText "kind" (dnsSummary change) = .ok text :=
          fun change _ => exists_fieldText (isShort_dnsSummary change) "kind"
        obtain ⟨kinds, hKinds⟩ := exists_mapM_of_forall hEach
        exact ⟨_, by simp only [hKinds, ok_bind]; rfl⟩
  obtain ⟨lines, hLines⟩ := hDns
  unfold Summary.ofPlan
  cases plan.succeeded with
  | false => exact ⟨_, rfl⟩
  | true => exact ⟨_, by simp only [hLines, ok_bind]; rfl⟩

/-- An output that a plan decides. -/
inductive Announces (plan : Plan) : String × Value → Prop where
  | document (document : String) : plan.Announces ("aclId", .text (documentId document))
  | magicDns : plan.Announces ("magicDnsEnabled", .bool plan.options.magicDns)
  | searchPaths : plan.Announces ("dnsSearchPaths", .texts plan.options.searchPaths)

/-- What a dry run comes to, which the plan alone decides. -/
structure Foreseen (plan : Plan) (outcome : Outcome) : Prop where
  dryRun : outcome.dryRun = true
  applied : outcome.applied = []
  outputs : ∀ output ∈ outcome.outputs, plan.Announces output
  errors : outcome.errors = plan.errors.map fun cause => "Plan failed: " ++ cause
  warnings : outcome.warnings = plan.warnings

theorem foreseen_apply {σ : Type} (plan : Plan) (plane : ControlPlane σ) (state : σ) :
    plan.Foreseen (plan.apply plane state true).2 := by
  unfold apply
  dsimp only
  split
  case h_1 document hSucceeded hDocument =>
    rw [if_pos rfl]
    have hErrors : plan.errors = [] := List.isEmpty_iff.mp hSucceeded
    refine ⟨rfl, rfl, ?_, by rw [hErrors]; rfl, rfl⟩
    rw [outputs_foreseen]
    intro output hOutput
    obtain ⟨stage, -, hStage⟩ := List.mem_flatMap.mp hOutput
    cases stage with
    | acl =>
        obtain rfl := List.mem_singleton.mp hStage
        exact .document document
    | dns =>
        rcases List.mem_pair.mp hStage with rfl | rfl
        · exact .magicDns
        · exact .searchPaths
    | keys => cases hStage
    | settings => cases hStage
  case h_2 =>
    rw [foldl_withFailure]
    exact ⟨rfl, rfl, List.forall_mem_nil _, List.nil_append _, rfl⟩

namespace Foreseen

variable {plan : Plan} {outcome : Outcome}

theorem succeeded_eq (h : plan.Foreseen outcome) : outcome.succeeded = plan.succeeded := by
  rw [Outcome.succeeded, h.errors, List.isEmpty_map]
  rfl

/-- What a dry run shows can be put on a page. -/
theorem exists_ofOutcome (h : plan.Foreseen outcome) (seconds : Float) :
    ∃ page, Summary.ofOutcome outcome seconds = .ok page := by
  have hShort : ∀ output ∈ outcome.outputs, output.2.isShort = true := by
    intro output hOutput
    cases h.outputs output hOutput with
    | document => rfl
    | magicDns => rfl
    | searchPaths => exact Value.isShort_texts _
  unfold Summary.ofOutcome
  have hEach (output : String × Value) (hOutput : output ∈ outcome.outputs) :
      ∃ line, (do
        return Print.line .out ("  " ++ styled "cyan" (output.1 ++ ":") ++ " " ++
          (← output.2.display)) : Except Integer.NumeralError Print) = .ok line := by
    obtain ⟨text, hText⟩ := Value.exists_display_iff.mpr (hShort output hOutput)
    exact ⟨_, by simp only [hText, ok_bind]; rfl⟩
  obtain ⟨lines, hLines⟩ := exists_mapM_of_forall hEach
  exact exists_bind_eq_ok_iff.mpr ⟨lines, hLines, _, rfl⟩

/-- The report of a dry run has a JSON text. -/
theorem isWritable (h : plan.Foreseen outcome) (seconds : Float) :
    (outcome.toValue seconds).isWritable .report = true := by
  have hOutputs : ∀ output ∈ outcome.outputs, output.2.isWritable .report = true := by
    intro output hOutput
    cases h.outputs output hOutput with
    | document => rfl
    | magicDns => rfl
    | searchPaths => exact Value.isWritable_texts _
  rw [Outcome.toValue, Value.isWritable_record_iff]
  simp only [List.forall_mem_cons]
  refine ⟨rfl, rfl, rfl, ?_, Value.isWritable_record_iff.mpr hOutputs, rfl,
    Value.isWritable_texts _, Value.isWritable_texts _, List.forall_mem_nil _⟩
  rw [h.applied]
  rfl

end Foreseen

end Plan

end Tailnet
