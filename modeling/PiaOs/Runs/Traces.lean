import PiaOs.Specs.Deeds
import PiaOs.Support.Sha256

/-!
# Concrete runs

A run that can be computed shows that a state is reachable. The works and callers that
such runs use are fixed here.
-/

namespace PiaOs

open Support Transactions

/-- The runtime with the real hash. The runs below import plain text, so its reader of
JSON is never asked. -/
instance hashlib : Runtime where
  sha256 := Sha256.hexdigest
  sha256_hex := Sha256.isSha256_hexdigest
  sha256_length := Sha256.length_hexdigest
  loads := fun _ => .malformed

/-- The orchestration before any request. -/
def Orchestration.start : Orchestration := Sys.start Db.empty

/-- A computed run reaches a state that passes a test. -/
theorem exists_reachable [Runtime] (labels : List (Label Request)) (test : Orchestration → Bool)
    (h : (Orchestration.start.trace orchestration labels).any test = true) :
    ∃ s, Reachable s ∧ test s = true := by
  cases htrace : Orchestration.start.trace orchestration labels with
  | none => simp [htrace] at h
  | some s =>
    rw [htrace] at h
    exact ⟨s, .trace .start htrace, h⟩

/-- The labels of transaction `i` when it runs `n` statements at once and commits. -/
def alone (i : Nat) (request : Request) (now : Int) (fresh n : Nat) : List (Label Request) :=
  .begin request now :: (List.range n).map (fun j => .exec i (fresh + j)) ++ [.commit i]

namespace Sample

/-- A step without a gate. -/
def openStep : StepDraft where
  role := "autor"
  instructionRef := "doc:1"
  expectedOutputContract := outputNonEmptyTextV1
  contextRefs := []
  constraints := []
  role_ok := by decide
  instructionRef_ok := by decide
  expectedOutputContract_ok := by decide
  constraints_ok := by decide

/-- A step whose dispatch needs a delegation. -/
def gatedStep : StepDraft where
  role := "autor"
  instructionRef := "doc:1"
  expectedOutputContract := outputNonEmptyTextV1
  contextRefs := []
  constraints := [(gateKeyRequired, gateRequiredServiceDelegation), (gateKeyScope, gateScopeDispatch)]
  role_ok := by decide
  instructionRef_ok := by decide
  expectedOutputContract_ok := by decide
  constraints_ok := by decide

def oneStep : ScheduleDraft := ⟨"obra", [openStep], by decide, by decide⟩

def twoSteps : ScheduleDraft := ⟨"obra", [openStep, openStep], by decide, by decide⟩

def gated : ScheduleDraft := ⟨"obra", [gatedStep], by decide, by decide⟩

/-- The caller `p`, under the key given. -/
def caller (key : String) : Caller := ⟨"p", key⟩

/-- A protection that always allows. -/
def allow : GatePosition → ProtectionDecision := fun _ => ⟨true, ""⟩

/-- A validity that no run here outlives. -/
def deadline : DateTime := ⟨2030, 1, 1, 0, 0, 0, 0, some 0⟩

def answer : RawReturn := ⟨"text/plain", "feito", none, by decide⟩

def attribution : DeclaredAttribution := ⟨"instancia", none, none, by decide, by decide⟩

end Sample

/-- A work with a gate and one delegation for it. -/
def granted : List (Label Request) :=
  alone 0 (.criarSchedule (Sample.caller "a") Sample.gated .manualHandoff) 0 1 15 ++
    alone 1 (.grantDelegationOnce (Sample.caller "b") ⟨1⟩ ⟨5⟩ Sample.deadline) 1 20 15

/-! ## What a run does at most once

Some writes close a key for good: the consumption of a delegation, the receipt of a
command. No key is closed twice, neither by one transaction nor over a whole run. -/

/-- Some writes close a key that was open, and a closed key stays closed. -/
structure ClosesOnce {κ : Type} (closes : Write → Option κ) (Closed : Db → κ → Prop) : Prop where
  later : ∀ {V W : Db} {k : κ}, Later [] V W → Closed V k → Closed W k
  closes : ∀ {V : Db} {w : Write} {k : κ}, w.may V → closes w = some k →
    ¬ Closed V k ∧ Closed (Db.apply w V) k

variable [Runtime] {κ : Type} {closes : Write → Option κ} {Closed : Db → κ → Prop}

/-- The writes of one transaction close each key once, and only keys that were open. -/
theorem closed_once {V : Db} {ws : List Write} {held : List Lock} (h : ClosesOnce closes Closed)
    (hguarded : protocol.Guarded held V ws) : (ws.filterMap closes).Nodup ∧
      ∀ k ∈ ws.filterMap closes, ¬ Closed V k ∧ Closed (applyAll Db.apply ws V) k := by
  induction ws generalizing V with
  | nil => simp
  | cons w ws ih =>
    obtain ⟨⟨-, hmay⟩, hrest⟩ := hguarded
    obtain ⟨hnodup, hkeys⟩ := ih hrest
    have hfirst : Later [] V (Db.apply w V) := .of_write (by simp) hmay
    have hafter : ∀ k ∈ ws.filterMap closes,
        ¬ Closed V k ∧ Closed (applyAll Db.apply (w :: ws) V) k :=
      fun k hk => ⟨fun hclosed => (hkeys k hk).1 (h.later hfirst hclosed), (hkeys k hk).2⟩
    rw [List.filterMap_cons]
    split
    case h_1 => exact ⟨hnodup, hafter⟩
    case h_2 k hk =>
      obtain ⟨hopen, hclosed⟩ := h.closes hmay hk
      have hnew : k ∉ ws.filterMap closes := fun hmem => (hkeys k hmem).1 hclosed
      refine ⟨List.nodup_cons.mpr ⟨hnew, hnodup⟩, fun k' hk' => ?_⟩
      obtain rfl | hk' := List.mem_cons.mp hk'
      · have hlast : Later [] (Db.apply w V) (applyAll Db.apply ws (Db.apply w V)) :=
          .of_guarded hrest
        exact ⟨hopen, h.later hlast hclosed⟩
      · exact hafter k' hk'

/-- Over a whole run no key is closed twice, and what was closed stays closed. -/
theorem closed_once_run {s : Orchestration} (h : Reachable s)
    (honce : ClosesOnce closes Closed) :
    (s.history.flatMap fun c => c.log.filterMap closes).Nodup ∧
      ∀ k ∈ s.history.flatMap fun c => c.log.filterMap closes, Closed s.store k := by
  have hcommits := commits_of_reachable h
  generalize s.history = history at hcommits
  generalize s.store = store at hcommits
  induction hcommits with
  | nil => simp
  | cons c hearlier hsound ih =>
    obtain ⟨hnodup, hclosed⟩ := ih
    obtain ⟨held, hguarded⟩ := hsound.guarded
    obtain ⟨hnodup', hkeys⟩ := closed_once honce hguarded
    rw [List.flatMap_cons]
    refine ⟨List.nodup_append.mpr ⟨hnodup', hnodup, ?_⟩, fun k hk => ?_⟩
    · rintro k hk _ hk' rfl
      exact (hkeys k hk).1 (hclosed k hk')
    · obtain hk | hk := List.mem_append.mp hk
      · exact (hkeys k hk).2
      · exact honce.later (Later.of_guarded hguarded) (hclosed k hk)

end PiaOs
