import PiaOs.Runs.Dispatch

/-!
# Switches of provider

An import compares its provider with that of the last attempt by the instant of creation,
which is when the exporting transaction began. Attempts are numbered in the order in which
they were opened. The two orders agree when the exports of a step begin in that order too.
-/

namespace PiaOs

open Support Transactions Repository CommandReceiptService

/-! ## The order of the attempts -/

/-- The attempt was created before, and at the same instant has the smaller identifier. -/
def HandoffAttempt.Precedes (b b' : HandoffAttempt) : Prop :=
  b.key.1 < b'.key.1 ∨ b.key.1 = b'.key.1 ∧ b.key.2 < b'.key.2

instance (b b' : HandoffAttempt) : Decidable (b.Precedes b') := inferInstanceAs (Decidable (_ ∨ _))

/-- An attempt that is opened was created after the earlier attempts of its step. -/
def Write.InOrder (db : Db) : Write → Prop
  | .insertAttempt row => ∀ k b, db.attempts.lookup k = some b → b.stepId = row.stepId →
    b.Precedes row
  | _ => True

instance (db : Db) : DecidablePred (Write.InOrder db)
  | .insertAttempt _ => Table.decidableForall db.attempts
  | .insertSchedule _ | .setScheduleState .. | .insertStep _ | .setStepState .. => .isTrue trivial
  | .setAttemptState .. | .insertDelegation _ | .setDelegationState .. => .isTrue trivial
  | .consumeDelegation .. | .insertReceipt _ | .insertSeal _ | .insertResult _ => .isTrue trivial
  | .insertAttribution _ | .insertExecution _ | .insertProfile _ | .insertEvent _ => .isTrue trivial
  | .insertObservation _ | .insertOpinion _ => .isTrue trivial

/-- The attempts of a step were created in the order of their numbers, and an open one is
the last. -/
structure Timely (db : Db) : Prop where
  created : ∀ k k' b b', db.attempts.lookup k = some b → db.attempts.lookup k' = some b' →
    b.stepId = b'.stepId → b.attemptNumber < b'.attemptNumber → b.Precedes b'
  open_last : ∀ k k' b a, db.attempts.lookup k = some b → db.attempts.lookup k' = some a →
    b.stepId = a.stepId → a.state = .open → b.attemptNumber ≤ a.attemptNumber

section Store

variable {V : Db} {w : Write} {ws : List Write}

/-- A write that opens no attempt leaves the attempts in order. -/
theorem Timely.of_rows {V' : Db} (h : Timely V)
    (hrows : ∀ k b', V'.attempts.lookup k = some b' → ∃ b, V.attempts.lookup k = some b ∧
      b'.id = b.id ∧ b'.stepId = b.stepId ∧ b'.attemptNumber = b.attemptNumber ∧
      b'.createdAt = b.createdAt ∧ (b'.state = .open → b.state = .open)) : Timely V' where
  created := by
    intro k k' c c' hc hc' hstep hnumber
    obtain ⟨b, hb, hid, hbstep, hbnumber, hcreated, -⟩ := hrows k c hc
    obtain ⟨b', hb', hid', hbstep', hbnumber', hcreated', -⟩ := hrows k' c' hc'
    have hprecedes := h.created k k' b b' hb hb' (by rw [← hbstep, hstep, hbstep']) (by omega)
    have hkey : c.key = b.key := by rw [HandoffAttempt.key, hid, hcreated, HandoffAttempt.key]
    have hkey' : c'.key = b'.key := by rw [HandoffAttempt.key, hid', hcreated', HandoffAttempt.key]
    rw [HandoffAttempt.Precedes, hkey, hkey']
    exact hprecedes
  open_last := by
    intro k k' c a hc ha hstep hopen
    obtain ⟨b, hb, -, hbstep, hbnumber, -, -⟩ := hrows k c hc
    obtain ⟨b', hb', -, hbstep', hbnumber', -, hbopen⟩ := hrows k' a ha
    have hle := h.open_last k k' b b' hb hb' (by rw [← hbstep, hstep, hbstep']) (hbopen hopen)
    omega

theorem Timely.apply (hmay : w.may V) (hw : w.InOrder V) (h : Timely V) : Timely (Db.apply w V) := by
  cases w with
  | insertAttempt row =>
    obtain ⟨-, -, -, hnumbers, hnone, -⟩ := hmay
    -- The attempts that were there have smaller numbers.
    have hsmaller : ∀ k b, V.attempts.lookup k = some b → b.stepId = row.stepId →
        b.attemptNumber < row.attemptNumber := fun k b hb hstep =>
      ((hnumbers b.attemptNumber).mp ⟨k, b, hb, hstep, rfl⟩).2
    constructor
    · intro k k' b b' hb hb' hstep hnumber
      obtain ⟨-, rfl⟩ | ⟨-, hb⟩ := Table.insert_cases hb
      · obtain ⟨-, rfl⟩ | ⟨-, hb'⟩ := Table.insert_cases hb'
        · omega
        · have := hsmaller k' b' hb' hstep.symm
          omega
      · obtain ⟨-, rfl⟩ | ⟨-, hb'⟩ := Table.insert_cases hb'
        · exact hw k b ‹_› hstep
        · exact h.created k k' b b' hb hb' hstep hnumber
    · intro k k' b a hb ha hstep hopen
      obtain ⟨-, rfl⟩ | ⟨-, hold⟩ := Table.insert_cases hb
      · obtain ⟨-, rfl⟩ | ⟨-, ha⟩ := Table.insert_cases ha
        · exact le_refl _
        · exact (hnone k' a ha hstep.symm hopen).elim
      · obtain ⟨-, rfl⟩ | ⟨-, ha⟩ := Table.insert_cases ha
        · exact (hsmaller k b hold hstep).le
        · exact h.open_last k k' b a hold ha hstep hopen
  | setAttemptState id state =>
    refine h.of_rows fun k b' hb' => ?_
    obtain ⟨rfl, b, hb, rfl⟩ | ⟨-, hb'⟩ := Table.modify_cases hb'
    · refine ⟨b, hb, rfl, rfl, rfl, rfl, fun hopen => ?_⟩
      obtain ⟨a, -, htransition⟩ := hmay
      obtain rfl : state = .open := hopen
      simp [e72AttemptTransitions, e73AttemptTransitions] at htransition
    · exact ⟨b', hb', rfl, rfl, rfl, rfl, fun hopen => hopen⟩
  | _ => exact h.of_rows fun k b hb => ⟨b, hb, rfl, rfl, rfl, rfl, id⟩

theorem Timely.applyAll [Runtime] {held : List Lock} (hguarded : protocol.Guarded held V ws)
    (hws : ∀ p ∈ trail Db.apply ws V, p.2.InOrder p.1) (h : Timely V) :
    Timely (applyAll Db.apply ws V) := by
  induction ws generalizing V with
  | nil => exact h
  | cons w ws ih =>
    obtain ⟨⟨-, hmay⟩, hrest⟩ := hguarded
    exact ih hrest (fun p hp => hws p (List.mem_cons_of_mem _ hp))
      (h.apply hmay (hws (V, w) List.mem_cons_self))

theorem timely_empty : Timely Db.empty where
  created := by simp [Db.empty]
  open_last := by simp [Db.empty]

/-- The attempts of the step before this one, by their numbers. -/
def NumberedBefore (a b : HandoffAttempt) : Prop := b.attemptNumber < a.attemptNumber

def numberLe (b b' : HandoffAttempt) : Prop := b.attemptNumber ≤ b'.attemptNumber

/-- The last attributed attempt of the step before this one. -/
abbrev Preceding (V : Db) (a b : HandoffAttempt) (x : HandoffAttribution) : Prop :=
  LastAttributed V a.stepId (NumberedBefore a) numberLe b x

/-- There is one last attributed attempt. -/
theorem Preceding.unique {a b b' : HandoffAttempt} {x x' : HandoffAttribution}
    (hwf : Wellformed V) (h : Preceding V a b x) (h' : Preceding V a b' x') : b = b' ∧ x = x' := by
  have hle : b'.attemptNumber ≤ b.attemptNumber := h.last b' x' h'.toAttributed h'.chosen
  have hle' : b.attemptNumber ≤ b'.attemptNumber := h'.last b x h.toAttributed h.chosen
  have hid : b.id = b'.id := hwf.number_unique b.id b'.id b b' h.attempt h'.attempt
    (h.step.trans h'.step.symm) (by omega)
  constructor
  · exact Option.some.inj (h.attempt.symm.trans (hid ▸ h'.attempt))
  · exact Option.some.inj (h.attribution.symm.trans (hid ▸ h'.attribution))

/-- Where the attempts are in order, the two ways to compare are one. -/
theorem Observed.by_number {a : HandoffAttempt} {provedor : Option String}
    {o : Option ExecutionObservation} (hwf : Wellformed V) (h : Timely V)
    (ha : V.attempts.lookup a.id = some a) (hopen : a.state = .open)
    (ho : Observed V (CreatedBefore a) creationLe a provedor o) :
    Observed V (NumberedBefore a) numberLe a provedor o := by
  refine ho.congr (fun _ _ _ => Iff.rfl) ?_ ?_
  · intro b x hb
    have hle := h.open_last b.id a.id b a hb.attempt ha hb.step hopen
    constructor
    · rintro ⟨hne, -⟩
      have hnumber : b.attemptNumber ≠ a.attemptNumber := fun heq =>
        hne (hwf.number_unique b.id a.id b a hb.attempt ha hb.step heq)
      exact lt_of_le_of_ne hle hnumber
    · intro hlt
      have hprecedes := h.created b.id a.id b a hb.attempt ha hb.step hlt
      refine ⟨?_, ?_⟩
      · intro heq
        obtain rfl : a = b := Option.some.inj (ha.symm.trans (heq ▸ hb.attempt))
        exact absurd hlt (lt_irrefl a.attemptNumber)
      · have hle' : b.key.1 ≤ a.key.1 := by
          rw [HandoffAttempt.Precedes] at hprecedes
          omega
        exact hle'
  · intro b b' x x' hb hb' _ _ hle
    rw [creationLe, Table.keyLe_iff] at hle
    by_contra hlt
    have hprecedes := h.created b'.id b.id b' b hb'.attempt hb.attempt
      (hb'.step.trans hb.step.symm) (by rw [numberLe] at hlt; omega)
    rw [HandoffAttempt.Precedes] at hprecedes
    omega

end Store

/-! ## What an import writes -/

def Write.asObservation : Write → Option ExecutionObservation
  | .insertObservation o => some o
  | _ => none

def Write.asAttribution : Write → Option HandoffAttribution
  | .insertAttribution x => some x
  | _ => none

/-- The attribution of an import, and what it observes when it compares in this order. -/
structure Observes (V : Db) (qualifies : HandoffAttempt → HandoffAttempt → Prop)
    (le : HandoffAttempt → HandoffAttempt → Prop) (stepId attemptId : Uuid)
    (provedor : Option String) (ws : List Write) : Prop where
  attributed : ∃ x, ws.filterMap Write.asAttribution = [x] ∧ x.attemptId = attemptId ∧
    x.declaredProviderId = provedor
  observed : ∃ a o, V.attempts.lookup attemptId = some a ∧ a.stepId = stepId ∧ a.state = .open ∧
    ws.filterMap Write.asObservation = Option.toList o ∧ Observed V (qualifies a) le a provedor o

/-- The import of a return: the step, the attempt and the provider that it declares. -/
def Request.imports : Request → Option (Uuid × Uuid × Option String)
  | .importReturnOnce _ _ _ stepId attemptId _ attribution =>
    some (stepId, attemptId, attribution.declaredProviderId)
  | _ => none

theorem ReturnRows.observations {m : ReturnRows} {attemptId : Uuid} {accepted : Bool} :
    (m.writes attemptId accepted).filterMap Write.asObservation = m.observation.toList := by
  rw [ReturnRows.writes]
  cases m.observation <;> rfl

theorem ReturnRows.attributions {m : ReturnRows} {attemptId : Uuid} {accepted : Bool} :
    (m.writes attemptId accepted).filterMap Write.asAttribution = [m.attribution] := by
  rw [ReturnRows.writes]
  cases m.observation <;> rfl

theorem AfterImport.quiet {V : Db} {comControle accepted : Bool} {scheduleId stepId : Uuid}
    {g : Schedule} {ws : List Write}
    (h : AfterImport V comControle scheduleId stepId g accepted ws) :
    ws.filterMap Write.asObservation = [] ∧ ws.filterMap Write.asAttribution = [] := by
  cases h with
  | rejected => exact ⟨rfl, rfl⟩
  | alone => exact ⟨rfl, rfl⟩
  | controlled ws _ hcompletion => cases hcompletion <;> exact ⟨rfl, rfl⟩

/-- The import of a return records one switch of provider when the last attributed attempt
before it declares another one, and none otherwise. -/
structure RecordsSwitch (V : Db) (stepId attemptId : Uuid) (provedor : Option String)
    (ws : List Write) : Prop where
  attributed : ∃ x, ws.filterMap Write.asAttribution = [x] ∧ x.attemptId = attemptId ∧
    x.declaredProviderId = provedor
  recorded : ∃ a, V.attempts.lookup attemptId = some a ∧ a.stepId = stepId ∧
    (∀ b x, Preceding V a b x → x.declaredProviderId ≠ provedor → ∃ id observedAt,
      ws.filterMap Write.asObservation = [⟨id, a.scheduleId, a.stepId, .declaredProviderSwitch, b.id,
        a.id, x.declaredProviderId, provedor, true, observedAt⟩]) ∧
    ((∀ b x, Preceding V a b x → x.declaredProviderId = provedor) →
      ws.filterMap Write.asObservation = [])

theorem Observes.records {V : Db} {stepId attemptId : Uuid} {provedor : Option String}
    {ws : List Write} (hwf : Wellformed V) (htimely : Timely V)
    (h : Observes V CreatedBefore creationLe stepId attemptId provedor ws) :
    RecordsSwitch V stepId attemptId provedor ws := by
  obtain ⟨a, o, ha, hstep, hopen, ho, hobserved⟩ := h.observed
  obtain rfl := hwf.attempts_id attemptId a ha
  have hnumber := hobserved.by_number hwf htimely ha hopen
  refine ⟨h.attributed, a, ha, hstep, ?_, ?_⟩
  · intro b x hlast hne
    rw [ho]
    cases hnumber with
    | first hnone => exact (hnone b x hlast.toAttributed hlast.chosen).elim
    | same b' x' hlast' heq =>
      obtain ⟨rfl, rfl⟩ := hlast.unique hwf hlast'
      exact (hne heq).elim
    | switch b' x' id observedAt hlast' _ =>
      obtain ⟨rfl, rfl⟩ := hlast.unique hwf hlast'
      exact ⟨id, observedAt, rfl⟩
  · intro hsame
    rw [ho]
    cases hnumber with
    | first => rfl
    | same => rfl
    | switch b x _ _ hlast hne => exact (hne (hsame b x hlast)).elim

section Runs

variable [Runtime]

/-- What an import observes in the order of creation. -/
def Request.Observa (V : Db) (request : Request) (ws : List Write) : Prop :=
  ∀ stepId attemptId provedor, request.imports = some (stepId, attemptId, provedor) →
    ws = [] ∨ Observes V CreatedBefore creationLe stepId attemptId provedor ws

/-- The rows of an import, after its receipt, observe what they should. -/
theorem Imported.observes {V V' : Db} {comControle accepted : Bool} {principal : String}
    {scheduleId stepId attemptId : Uuid} {raw : RawReturn} {m : ReturnRows} {ws : List Write}
    {provedor : Option String} {r : CommandReceipt}
    (h : Imported V' comControle principal scheduleId stepId attemptId raw m accepted ws)
    (hopen : ∀ a, V.attempts.lookup attemptId = some a → a.state = .open)
    (hobserving : m.Observing V stepId attemptId provedor) :
    Observes V CreatedBefore creationLe stepId attemptId provedor
      (.insertReceipt r :: (m.writes attemptId accepted ++ ws)) := by
  obtain ⟨g, -, -, hafter⟩ := h.schedule
  obtain ⟨hobservations, hattributions⟩ := hafter.quiet
  obtain ⟨a, ha, hstep, hobserved⟩ := hobserving.observed
  constructor
  · refine ⟨m.attribution, ?_, h.attribution_attempt, hobserving.declared⟩
    change (m.writes attemptId accepted ++ ws).filterMap Write.asAttribution = _
    rw [List.filterMap_append, ReturnRows.attributions, hattributions, List.append_nil]
  · refine ⟨a, m.observation, ha, hstep, hopen a ha, ?_, hobserved⟩
    change (m.writes attemptId accepted ++ ws).filterMap Write.asObservation = _
    rw [List.filterMap_append, ReturnRows.observations, hobservations, List.append_nil]

/-- Two conditions on the end of a program. -/
theorem ends_and {α : Type} {S : Scene protocol} {Q Q' : α → Db → List Lock → List Write → Prop}
    {E E' : Failure → List Write → Prop} {p : Action α} :
    ∀ {past : Db} {held : List Lock} {log : List Write}, S.Ends Q E p past held log →
      S.Ends Q' E' p past held log →
      S.Ends (fun b past held log => Q b past held log ∧ Q' b past held log)
        (fun e log => E e log ∧ E' e log) p past held log := by
  induction p with
  | pure b => exact fun h h' => ⟨h, h'⟩
  | raise e => exact fun h h' => ⟨h, h'⟩
  | stmt s k ih =>
    intro past held log h h' fresh db v held' hsees hfresh
    have hfirst := h fresh db hsees hfresh
    have hsecond := h' fresh db hsees hfresh
    cases hexec : s.exec ⟨S.now, fresh⟩ v with
    | error e =>
      rw [hexec] at hfirst hsecond
      exact ⟨hfirst, hsecond⟩
    | ok r =>
      rw [hexec] at hfirst hsecond
      exact ⟨hfirst.1, ih r.1 hfirst.2 hsecond.2⟩

/-- The contract, with what an import observes. -/
def observing : Contract orchestration where
  commits request now began V a ws := contract.commits request now began V a ws ∧ request.Observa V ws
  fails := contract.fails

theorem yields_importReturnOnce {S : Scene protocol} {began : Db} {comControle : Bool}
    {caller : Caller} {scheduleId stepId attemptId : Uuid} {raw : RawReturn}
    {attribution : DeclaredAttribution} (hwf : Wellformed S.final) :
    S.Yields (fun _ _ _ log => log = [] ∨ Observes S.final CreatedBefore creationLe stepId attemptId
      attribution.declaredProviderId log)
      (importReturnOnce comControle caller.principalRef caller.commandKey scheduleId stepId attemptId
        raw attribution) began [] [] := by
  have hview : Wellformed (S.view []) := hwf
  refine (ends_executarUmaVez hview ?_ ?_).mono (fun _ _ _ _ h => h) fun _ _ _ => trivial
  · intro r db held' _ _ _ _ _ _
    refine ReturnValidationService.yields_importReturn hwf (by simp [Write.table]) ?_
    intro out m accepted ws db' held'' _ himported hobserving
    refine .inr ?_
    obtain ⟨a, ha, -, -, hopen⟩ := himported.attempt
    have hobserves := himported.observes (r := r) (fun a' ha' => ?_) hobserving
    · simpa using hobserves
    · obtain rfl := Option.some.inj (ha'.symm.trans ha)
      exact hopen
  · exact fun _ _ _ _ _ _ => .inl rfl

theorem obeys_observing : Obeys protocol observing where
  keeps := by
    intro request began S horigin hbegan
    have hwf : Wellformed S.final := wellformed_of_evolve (horigin.trans hbegan)
    have hkeeps := obeys.keeps request began S horigin hbegan
    cases request with
    | importReturnOnce comControle caller scheduleId stepId attemptId raw attribution =>
      have hobserves : S.Yields (fun _ _ _ log => log = [] ∨ Observes S.final CreatedBefore
          creationLe stepId attemptId attribution.declaredProviderId log)
          (orchestration.program (.importReturnOnce comControle caller scheduleId stepId attemptId raw
            attribution)) began [] [] :=
        .bind ((yields_importReturnOnce hwf).mono (fun _ _ _ _ h => h) fun _ _ h => h)
      refine (ends_and hkeeps hobserves).mono ?_ fun _ _ h => h.1
      rintro a _ _ log ⟨hended, hlog⟩
      refine ⟨hended, ?_⟩
      rintro _ _ _ ⟨⟩
      exact hlog
    | _ =>
      refine hkeeps.mono (fun a _ _ log hended => ⟨hended, ?_⟩) fun _ _ h => h
      rintro _ _ _ ⟨⟩
  settles := fun request now began final a held log hfinal hguarded hcommits =>
    obeys.settles request now began final a held log hfinal hguarded hcommits.1

/-- Each return that the commit imports records its switch. -/
def SwitchRecorded (c : Commit) : Prop :=
  ∀ stepId attemptId provedor, c.request.imports = some (stepId, attemptId, provedor) →
    c.log = [] ∨ RecordsSwitch c.before stepId attemptId provedor c.log

/-- The attempts that the commit opens were created after the earlier ones of their steps. -/
def OpensInOrder (c : Commit) : Prop :=
  ∀ p ∈ trail Db.apply c.log c.before, p.2.InOrder p.1

instance : DecidablePred OpensInOrder := fun c =>
  inferInstanceAs (Decidable (∀ p ∈ trail Db.apply c.log c.before, p.2.InOrder p.1))

/-- Exports that begin in order leave the attempts in order. -/
theorem timely_of_commits {history : List Commit} {store : Db}
    (h : Commits protocol observing history store) (hordem : ∀ c ∈ history, OpensInOrder c) :
    Timely store := by
  induction h with
  | nil => exact timely_empty
  | cons c hearlier hsound ih =>
    obtain ⟨held, hguarded⟩ := hsound.guarded
    exact (ih fun c' hc' => hordem c' (List.mem_cons_of_mem _ hc')).applyAll hguarded
      (hordem c List.mem_cons_self)

/-- Every import records its switch of provider, in a run whose exports of a step begin in
the order in which they open its attempts. -/
theorem switches_recorded {s : Orchestration} (h : Reachable s)
    (hordem : ∀ c ∈ s.history, OpensInOrder c) : ∀ c ∈ s.history, SwitchRecorded c := by
  intro c hc stepId attemptId provedor himports
  obtain ⟨newer, earlier, hsplit⟩ := List.append_of_mem hc
  have hcommits := (sound_of_reachable obeys_observing h).commits
  rw [hsplit] at hcommits
  obtain ⟨hearlier, hsound, -⟩ := hcommits.split
  have htimely : Timely c.before := timely_of_commits hearlier fun c' hc' =>
    hordem c' (by rw [hsplit]; exact List.mem_append_right _ (List.mem_cons_of_mem _ hc'))
  have hwf : Wellformed c.before := wellformed_of_evolve hsound.origin_before
  rcases hsound.commits.2 stepId attemptId provedor himports with hnothing | hobserves
  · exact .inl hnothing
  · exact .inr (hobserves.records hwf htimely)

end Runs

namespace Sample

/-- An attribution that declares its provider. -/
def declares (p : String) (h : p.length ≤ maxDeclaredIdLength) : DeclaredAttribution where
  declaredInstanceId := "instancia"
  declaredProviderId := some p
  declaredModelId := none
  declaredInstanceId_ok := attribution.declaredInstanceId_ok
  lengths_ok :=
    ⟨attribution.lengths_ok.1, fun q hq => Option.mem_some.mp hq ▸ h, fun _ hm => by cases hm⟩

/-- A return that is rejected. -/
def blankAnswer : RawReturn := ⟨"text/plain", "", none, answer.mediaType_ok⟩

/-- The export of the only step. -/
def exports (key : String) : Request :=
  .exportHandoffOnce denyAllHumanGate (caller key) ⟨1⟩ ⟨5⟩ "p"

/-- The import of a return that is rejected. -/
def reject (key : String) (attemptId : Nat) (attribution : DeclaredAttribution) : Request :=
  .importReturnOnce false (caller key) ⟨1⟩ ⟨5⟩ ⟨attemptId⟩ blankAnswer attribution

end Sample

/-- Two exports of one step, one after the other, and the returns of two providers. -/
def twoProviders : List (Label Request) :=
  alone 0 (.criarSchedule (Sample.caller "a") Sample.oneStep .manualHandoff) 0 1 15 ++
    alone 1 (Sample.exports "b") 1 20 36 ++
    alone 2 (Sample.reject "c" 20 (Sample.declares "x" (by decide))) 2 60 15 ++
    alone 3 (Sample.exports "d") 3 100 30 ++
    alone 4 (Sample.reject "e" 100 (Sample.declares "y" (by decide))) 4 140 19

/-- The same when the second export began before the first one. -/
def overtaken : List (Label Request) :=
  alone 0 (.criarSchedule (Sample.caller "a") Sample.oneStep .manualHandoff) 0 1 15 ++
    .begin (Sample.exports "d") 1 :: (List.range 3).map (fun j => .exec 1 (100 + j)) ++
    alone 2 (Sample.exports "b") 2 20 36 ++
    alone 3 (Sample.reject "c" 20 (Sample.declares "x" (by decide))) 3 60 15 ++
    (List.range 27).map (fun j => .exec 1 (103 + j)) ++ [.commit 1] ++
    alone 4 (Sample.reject "e" 100 (Sample.declares "y" (by decide))) 4 140 15

theorem switches_recorded_once : ∃ s : Orchestration, Reachable s ∧
    (Table.rows s.store.observations).map (fun o =>
      (o.previousAttemptId, o.currentAttemptId, o.previousDeclaredProviderId,
        o.currentDeclaredProviderId)) = [(⟨20⟩, ⟨100⟩, some "x", some "y")] ∧
    ∀ c ∈ s.history, SwitchRecorded c := by
  obtain ⟨s, hreach, htest⟩ := exists_reachable twoProviders (fun s => decide
    ((Table.rows s.store.observations).map (fun o =>
      (o.previousAttemptId, o.currentAttemptId, o.previousDeclaredProviderId,
        o.currentDeclaredProviderId)) = [(⟨20⟩, ⟨100⟩, some "x", some "y")] ∧
      ∀ c ∈ s.history, OpensInOrder c)) (by decide +kernel)
  obtain ⟨hobservations, hordem⟩ := of_decide_eq_true htest
  exact ⟨s, hreach, hobservations, switches_recorded hreach hordem⟩

theorem switch_missed : ¬ ∀ s : Orchestration, Reachable s → ∀ c ∈ s.history, SwitchRecorded c := by
  intro hall
  obtain ⟨s, hreach, htest⟩ := exists_reachable overtaken (fun s => s.history.any fun c => decide
    (c.request.imports = some (⟨5⟩, ⟨100⟩, some "y") ∧ c.log ≠ [] ∧
      c.log.filterMap Write.asObservation = [] ∧
      (c.before.attempts.lookup ⟨100⟩).map (fun a => (a.stepId, a.attemptNumber)) = some (⟨5⟩, 2) ∧
      (c.before.attempts.lookup ⟨20⟩).map (fun b => (b.stepId, b.attemptNumber)) = some (⟨5⟩, 1) ∧
      (c.before.attributions.lookup ⟨20⟩).map (fun x => x.declaredProviderId) = some (some "x")))
    (by decide +kernel)
  obtain ⟨c, hc, hfacts⟩ := List.any_eq_true.mp htest
  obtain ⟨himports, hlog, hnone, ha, hb, hx⟩ := of_decide_eq_true hfacts
  have hwf := wellformed_before hreach hc
  obtain ⟨b, hb, hbfields⟩ := Option.map_eq_some_iff.mp hb
  obtain ⟨hbstep, hbnumber⟩ := Prod.mk.inj hbfields
  obtain ⟨x, hx, hprovider⟩ := Option.map_eq_some_iff.mp hx
  rcases hall s hreach c hc ⟨5⟩ ⟨100⟩ (some "y") himports with hnothing | hrecords
  · exact hlog hnothing
  · obtain ⟨a, ha', hastep, hswitch, -⟩ := hrecords.recorded
    rw [ha', Option.map_some, Option.some.injEq, Prod.mk.injEq] at ha
    have hid : b.id = ⟨20⟩ := hwf.attempts_id ⟨20⟩ b hb
    have hpreceding : Preceding c.before a b x := by
      refine ⟨⟨hid ▸ hb, hbstep.trans hastep.symm, hid ▸ hx⟩, ?_, fun b' x' _ hbefore => ?_⟩
      · rw [NumberedBefore]
        omega
      · rw [NumberedBefore] at hbefore
        rw [numberLe]
        omega
    obtain ⟨id, observedAt, hobservation⟩ := hswitch b x hpreceding (by simp [hprovider])
    rw [hnone] at hobservation
    cases hobservation

end PiaOs
