import PiaOs.Memory.Consumption
import PiaOs.Memory.Database

/-!
# Single use

A transition that succeeded keeps every other one of the same record from
succeeding, until its transaction is rolled back; once it is committed, for good.
-/

namespace PiaOs.Memory

open Support ApprovalRecordRepository

/-! ## Records that are decided -/

/-- A record of the tables is no longer active. -/
def Decidido (t : ApprovalTables) (approvalId : Uuid) : Prop :=
  ∃ r ∈ t.records, r.id = approvalId ∧ r.state ≠ .active

/-- Every record of the tables with the identifier is active. -/
def Ativo (t : ApprovalTables) (approvalId : Uuid) : Prop :=
  ∀ r ∈ t.records, r.id = approvalId → r.state = .active

def ApprovalTables.ids (t : ApprovalTables) : List Uuid := t.records.map ApprovalRecord.id

namespace Escrita

/-- The write is a transition of the record. -/
def transita (approvalId : Uuid) : Escrita → Prop
  | .transicao id _ _ => id = approvalId
  | _ => False

/-- No write makes a record active again. -/
def definitiva : Escrita → Prop
  | .transicao _ destino _ => destino ≠ .active
  | _ => True

variable {t : Tabelas} {approvalId : Uuid} {w : Escrita} {ws : List Escrita}

theorem toca_of_transita (h : w.transita approvalId) : w.toca approvalId = true := by
  cases w with
  | transicao id destino agora => exact beq_iff_eq.mpr h
  | aprovacao envelope => exact h.elim
  | recibo r => exact h.elim

/-- The write adds the record. -/
def inclui (approvalId : Uuid) : Escrita → Prop
  | .aprovacao envelope => envelope.approvalId = approvalId
  | _ => False

theorem ids_aplicada : approvalId ∈ (w.aplicada t).aprovacoes.ids ↔
    approvalId ∈ t.aprovacoes.ids ∨ w.inclui approvalId := by
  cases w with
  | transicao id destino agora =>
    have hids : ((transicao id destino agora).aplicada t).aprovacoes.ids = t.aprovacoes.ids := by
      simp only [aplicada, atualizado, ApprovalTables.ids, List.map_map]
      refine List.map_congr_left fun r _ => ?_
      simp only [Function.comp_apply]
      split <;> simp
    simp [hids, inclui]
  | aprovacao envelope =>
    simp [aplicada, withRows, ApprovalTables.ids, inclui, ApprovalRecord.assigned, registroDe,
      eq_comm]
  | recibo r => simp [aplicada, inclui]

theorem ids_aplicadas : approvalId ∈ (ws.foldl aplicada t).aprovacoes.ids ↔
    approvalId ∈ t.aprovacoes.ids ∨ ∃ w ∈ ws, w.inclui approvalId := by
  induction ws generalizing t with
  | nil => simp
  | cons w ws ih => simp [ih, ids_aplicada, or_assoc]

theorem decidido_aplicada (h : Decidido t.aprovacoes approvalId) (hw : w.definitiva) :
    Decidido (w.aplicada t).aprovacoes approvalId := by
  obtain ⟨r, hr, hid, hstate⟩ := h
  cases w with
  | transicao id destino agora =>
    refine ⟨_, List.mem_map.mpr ⟨r, hr, rfl⟩, ?_⟩
    split
    · exact ⟨by simp [hid], by simpa [definitiva] using hw⟩
    · exact ⟨hid, hstate⟩
  | aprovacao envelope => exact ⟨r, List.mem_append_left _ hr, hid, hstate⟩
  | recibo r' => exact ⟨r, hr, hid, hstate⟩

theorem decidido_aplicadas (h : Decidido t.aprovacoes approvalId) (hws : ∀ w ∈ ws, w.definitiva) :
    Decidido (ws.foldl aplicada t).aprovacoes approvalId := by
  induction ws generalizing t with
  | nil => exact h
  | cons w ws ih =>
    exact ih (decidido_aplicada h (hws w List.mem_cons_self))
      fun w' hw' => hws w' (List.mem_cons_of_mem _ hw')

/-- A transition decides a record that is there. -/
theorem decidido_transicao {destino : ApprovalLifecycleState} {agora : Instant}
    (h : approvalId ∈ t.aprovacoes.ids) (hdestino : destino ≠ .active) :
    Decidido ((transicao approvalId destino agora).aplicada t).aprovacoes approvalId := by
  obtain ⟨r, hr, hid⟩ := List.mem_map.mp h
  refine ⟨_, List.mem_map.mpr ⟨r, hr, rfl⟩, ?_⟩
  simp [hid, hdestino]

/-- A record that no write transits stays active. -/
theorem ativo_aplicadas (h : Ativo t.aprovacoes approvalId)
    (hws : ∀ w ∈ ws, ¬ w.transita approvalId) :
    Ativo (ws.foldl aplicada t).aprovacoes approvalId := by
  induction ws generalizing t with
  | nil => exact h
  | cons w ws ih =>
    refine ih ?_ fun w' hw' => hws w' (List.mem_cons_of_mem _ hw')
    have hw := hws w List.mem_cons_self
    intro row hrow hid
    cases w with
    | transicao id destino agora =>
      obtain ⟨r, hr, rfl⟩ := List.mem_map.mp hrow
      have hne : (r.id == id) = false := by
        rw [beq_eq_false_iff_ne]
        rintro rfl
        refine hw ?_
        simpa [transita] using hid
      simp only [hne] at hid ⊢
      exact h r hr hid
    | aprovacao envelope =>
      rcases List.mem_append.mp hrow with hrow | hrow
      · exact h row hrow hid
      · rw [List.mem_singleton.mp hrow]
        rfl
    | recibo r => exact h row hrow hid

end Escrita

/-! ## What open transactions hold -/

namespace Banco

variable {b b' : Banco} {i j : Nat} {approvalId : Uuid} {w : Escrita}

theorem mem_escritasDe : w ∈ b.escritasDe i ↔ (i, w) ∈ b.pendentes := by
  simp only [escritasDe, List.mem_map, List.mem_filter, beq_iff_eq]
  constructor
  · rintro ⟨p, ⟨hp, rfl⟩, rfl⟩
    exact hp
  · exact fun h => ⟨(i, w), ⟨h, rfl⟩, rfl⟩

theorem escritasDe_anotado : (b.anotado i w).escritasDe j =
    b.escritasDe j ++ if j = i then [w] else [] := by
  simp only [escritasDe, anotado, List.filter_append, List.map_append]
  congr 1
  by_cases h : j = i
  · simp [h]
  · simp [h, Ne.symm h]

theorem escritasDe_desfeito : (b.desfeito i).escritasDe j =
    if j = i then [] else b.escritasDe j := by
  simp only [escritasDe, desfeito, List.filter_filter]
  split
  case isTrue h =>
    subst h
    rw [List.map_eq_nil_iff, List.filter_eq_nil_iff]
    intro p _
    simp
  case isFalse h =>
    congr 1
    refine List.filter_congr fun p _ => ?_
    by_cases hp : p.1 = j
    · simp [hp, h]
    · simp [hp]

theorem mem_desfeito {p : Nat × Escrita} :
    p ∈ (b.desfeito i).pendentes ↔ p ∈ b.pendentes ∧ p.1 ≠ i := by
  simp [desfeito]

/-- What holds of the open transactions: each transition is of a record that is
there, no two of them are of one record, and a record in transition is active in
what is committed. -/
structure Firme (b : Banco) : Prop where
  definitivas : ∀ p ∈ b.pendentes, p.2.definitiva
  presentes : ∀ i front w post, b.escritasDe i = front ++ w :: post → ∀ id, w.transita id →
    id ∈ (front.foldl Escrita.aplicada ⟨b.aprovacoes.toApprovalTables, b.recibos⟩).aprovacoes.ids
  exclusivas : ∀ p ∈ b.pendentes, ∀ q ∈ b.pendentes, ∀ id, p.2.transita id → q.2.transita id →
    p.1 = q.1
  ativas : ∀ p ∈ b.pendentes, ∀ id, p.2.transita id → Ativo b.aprovacoes.toApprovalTables id

/-- A transaction sees as decided what it has transited, and what was committed so. -/
theorem Firme.decidido (h : b.Firme) (hw : w ∈ b.escritasDe i) (hid : w.transita approvalId) :
    Decidido (b.vista i).aprovacoes approvalId := by
  obtain ⟨front, post, hsplit⟩ := List.append_of_mem hw
  have hdefinitivas : ∀ w' ∈ b.escritasDe i, w'.definitiva := fun w' hw' =>
    h.definitivas _ (mem_escritasDe.mp hw')
  have hthere := h.presentes i front w post hsplit approvalId hid
  rw [vista, hsplit, List.foldl_append, List.foldl_cons]
  refine Escrita.decidido_aplicadas ?_ fun w' hw' => hdefinitivas w' (by simp [hsplit, hw'])
  cases w with
  | transicao id destino agora =>
    cases hid
    exact Escrita.decidido_transicao hthere (hdefinitivas _ hw)
  | aprovacao envelope => exact hid.elim
  | recibo r => exact hid.elim

theorem Firme.decidido_vista (h : b.Firme)
    (hdecided : Decidido b.aprovacoes.toApprovalTables approvalId) :
    Decidido (b.vista i).aprovacoes approvalId :=
  Escrita.decidido_aplicadas (t := ⟨b.aprovacoes.toApprovalTables, b.recibos⟩) hdecided
    fun _ hw => h.definitivas _ (mem_escritasDe.mp hw)

/-- What the view of a transaction has to say for a write to be made. -/
def Novo (b : Banco) (i : Nat) (w : Escrita) : Prop :=
  w.definitiva ∧ ∀ id, w.transita id → b.preso i (Escrita.toca id) = false ∧
    id ∈ (b.vista i).aprovacoes.ids ∧ ¬ Decidido (b.vista i).aprovacoes id

theorem Novo.presente (h : b.Novo i w) (hid : w.transita approvalId) :
    approvalId ∈ (b.vista i).aprovacoes.ids := (h.2 approvalId hid).2.1

/-- Before a transition no transaction has one of the record, and the committed row
is active. -/
theorem Firme.livre (h : b.Firme) (hw : b.Novo i w) (hid : w.transita approvalId) :
    ∀ p ∈ b.pendentes, ¬ p.2.transita approvalId := by
  obtain ⟨hfree, -, hactive⟩ := hw.2 approvalId hid
  intro p hp hpid
  by_cases hpi : p.1 = i
  · exact hactive (h.decidido (mem_escritasDe.mpr (hpi ▸ hp)) hpid)
  · rw [preso, List.any_eq_false] at hfree
    exact hfree p hp (by simp [hpi, Escrita.toca_of_transita hpid])

theorem Firme.ativo (h : b.Firme) (hw : b.Novo i w) (hid : w.transita approvalId) :
    ¬ Decidido b.aprovacoes.toApprovalTables approvalId := fun hdecided =>
  (hw.2 approvalId hid).2.2 (h.decidido_vista hdecided)

theorem ativo_of_not_decidido {t : ApprovalTables} (h : ¬ Decidido t approvalId) :
    Ativo t approvalId := by
  intro r hr hid
  by_contra hstate
  exact h ⟨r, hr, hid, hstate⟩

theorem Firme.anotado (h : b.Firme) (hw : b.Novo i w) : (b.anotado i w).Firme := by
  constructor
  case definitivas =>
    intro p hp
    rcases List.mem_append.mp hp with hp | hp
    · exact h.definitivas p hp
    · rw [List.mem_singleton.mp hp]
      exact hw.1
  case presentes =>
    intro j front w' post hsplit id hid
    rw [escritasDe_anotado] at hsplit
    by_cases hj : j = i
    · subst hj
      rw [if_pos rfl] at hsplit
      rcases List.eq_nil_or_concat post with rfl | ⟨post', last, rfl⟩
      · obtain ⟨rfl, hlast⟩ := List.append_inj' hsplit rfl
        obtain rfl := List.singleton_inj.mp hlast
        exact hw.presente hid
      · rw [List.concat_eq_append, ← List.cons_append, ← List.append_assoc] at hsplit
        exact h.presentes j front w' post' (List.append_inj' hsplit rfl).1 id hid
    · rw [if_neg hj, List.append_nil] at hsplit
      exact h.presentes j front w' post hsplit id hid
  case exclusivas =>
    intro p hp q hq id hpid hqid
    rcases List.mem_append.mp hp with hp | hp
    · rcases List.mem_append.mp hq with hq | hq
      · exact h.exclusivas p hp q hq id hpid hqid
      · rw [List.mem_singleton.mp hq] at hqid
        exact absurd hpid (h.livre hw hqid p hp)
    · rw [List.mem_singleton.mp hp] at hpid ⊢
      rcases List.mem_append.mp hq with hq | hq
      · exact absurd hqid (h.livre hw hpid q hq)
      · rw [List.mem_singleton.mp hq]
  case ativas =>
    intro p hp id hid
    rcases List.mem_append.mp hp with hp | hp
    · exact h.ativas p hp id hid
    · rw [List.mem_singleton.mp hp] at hid
      exact ativo_of_not_decidido (h.ativo hw hid)

theorem Firme.desfeito (h : b.Firme) (i : Nat) : (b.desfeito i).Firme := by
  constructor
  case definitivas => exact fun p hp => h.definitivas p (mem_desfeito.mp hp).1
  case presentes =>
    intro j front w post hsplit id hid
    rw [escritasDe_desfeito] at hsplit
    split at hsplit
    · exact absurd hsplit.symm (by simp)
    · exact h.presentes j front w post hsplit id hid
  case exclusivas =>
    exact fun p hp q hq => h.exclusivas p (mem_desfeito.mp hp).1 q (mem_desfeito.mp hq).1
  case ativas => exact fun p hp => h.ativas p (mem_desfeito.mp hp).1

theorem Firme.efetivado (h : b.Firme) {store : ApprovalStore}
    (hstore : store.toApprovalTables = (b.vista i).aprovacoes) : (b.efetivado i store).Firme := by
  have hbase := h.desfeito i
  constructor
  case definitivas => exact hbase.definitivas
  case presentes =>
    intro j front w post hsplit id hid
    have hthere := hbase.presentes j front w post hsplit id hid
    rw [Escrita.ids_aplicadas] at hthere ⊢
    refine hthere.imp_left fun hbefore => ?_
    show id ∈ store.toApprovalTables.ids
    rw [hstore]
    exact Escrita.ids_aplicadas.mpr (.inl hbefore)
  case exclusivas => exact hbase.exclusivas
  case ativas =>
    intro p hp id hid
    obtain ⟨hp, hpi⟩ := mem_desfeito.mp hp
    have hnone : ∀ w ∈ b.escritasDe i, ¬ w.transita id := fun w hw hwid =>
      hpi (h.exclusivas p hp _ (mem_escritasDe.mp hw) id hid hwid)
    have hactive : Ativo b.aprovacoes.toApprovalTables id := h.ativas p hp id hid
    show Ativo store.toApprovalTables id
    rw [hstore]
    exact Escrita.ativo_aplicadas (t := ⟨b.aprovacoes.toApprovalTables, b.recibos⟩) hactive hnone

/-! ## What an answer does -/

/-- A statement that the database refuses ends the transaction. -/
def aborta {α ε : Type} : Except ε α → (ε → Bool) → Option Bool
  | .error erro, recusado => if recusado erro then some false else none
  | .ok _, _ => none

def recusada : TransitionError → Bool
  | .database _ => true
  | .driver | .notUsable _ _ => false

/-- The transaction ended: committed or not. -/
def encerra : Answered Chamada Resposta → Option Bool
  | ⟨.commit, .ok _⟩ => some true
  | ⟨.commit, .error _⟩ | ⟨.fechar, _⟩ => some false
  | ⟨.consumir _, a⟩ | ⟨.revogar _, a⟩ => aborta a recusada
  | ⟨.aprovar _, a⟩ => aborta a fun _ => true
  | ⟨.registrar _, a⟩ => aborta a fun _ => true
  | ⟨.resolver _, _⟩ | ⟨.tentar _, _⟩ => none

/-- A call that consumed or revoked the approval. -/
def sucesso (approvalId : Uuid) : Answered Chamada Resposta → Prop
  | ⟨.consumir envelope, a⟩ | ⟨.revogar envelope, a⟩ =>
    envelope.approvalId = approvalId ∧ ∃ r, a = .ok r
  | _ => False

instance (approvalId : Uuid) :
    (e : Answered Chamada Resposta) → Decidable (sucesso approvalId e)
  | ⟨.consumir envelope, a⟩ | ⟨.revogar envelope, a⟩ =>
    decidable_of_iff (envelope.approvalId = approvalId ∧ a.toOption.isSome = true) <| by
      cases a with
      | ok r => simpa [sucesso, Except.toOption] using fun _ => ⟨r, rfl⟩
      | error erro => simp [sucesso, Except.toOption]
  | ⟨.resolver _, _⟩ | ⟨.aprovar _, _⟩ | ⟨.registrar _, _⟩ | ⟨.commit, _⟩ | ⟨.fechar, _⟩
  | ⟨.tentar _, _⟩ => isFalse id

/-- What a transition found in the view of its transaction. -/
theorem transitar_cases {envelope : DestructiveApprovalEnvelope}
    {destino : ApprovalLifecycleState} {exigirNaoVencida : Bool} {escolha : Escolha}
    {a : Except TransitionError ApprovalRecord} (hdestino : destino ≠ .active)
    (h : b.transitar i envelope destino exigirNaoVencida escolha = some (a, b')) :
    ((∃ erro, a = .error (.database erro)) ∧ b' = b.desfeito i) ∨
    ((∃ erro, a = .error erro ∧ ∀ e, erro ≠ .database e) ∧ b' = b) ∨
    ∃ relogio store r, escolha = .relogio relogio ∧
      (b.vista i).aprovacoes.settle = .ok store ∧
      Usable store.toApprovalTables envelope exigirNaoVencida relogio.julgado r ∧
      b.preso i (Escrita.toca envelope.approvalId) = false ∧
      (a = .ok (transitado destino relogio.escrito r) ∨ a = .error .driver) ∧
      b' = b.anotado i (.transicao envelope.approvalId destino relogio.escrito) := by
  cases escolha with
  | falha =>
    obtain ⟨rfl, rfl⟩ := Prod.mk.inj (Option.some.inj h)
    exact .inl ⟨⟨_, rfl⟩, rfl⟩
  | relogio relogio =>
    simp only [transitar] at h
    split at h
    · obtain ⟨rfl, rfl⟩ := Prod.mk.inj (Option.some.inj h)
      exact .inl ⟨⟨_, rfl⟩, rfl⟩
    · rename_i store hstore
      by_cases hfound : ∃ r, Usable store.toApprovalTables envelope exigirNaoVencida
          relogio.julgado r
      · obtain ⟨r, hr⟩ := hfound
        obtain ⟨store', hdone, htables⟩ := transicionar_usable hdestino hr
        rw [hdone, if_neg (hr.changes hdestino htables)] at h
        split at h
        · cases h
        · rename_i hfree
          obtain ⟨ha, rfl⟩ := Prod.mk.inj (Option.some.inj h)
          refine .inr (.inr ⟨relogio, store, r, rfl, hstore, hr, by simpa using hfree, ?_, rfl⟩)
          rw [← ha]
          split
          · exact .inl rfl
          · exact .inr rfl
      · obtain ⟨erro, hrefused⟩ := transicionar_refused destino (not_exists.mp hfound)
        rw [hrefused, if_pos rfl] at h
        obtain ⟨rfl, hb⟩ := Prod.mk.inj (Option.some.inj h)
        cases erro with
        | database e => exact .inl ⟨⟨_, rfl⟩, hb.symm⟩
        | driver => exact .inr (.inl ⟨⟨_, rfl, by simp⟩, hb.symm⟩)
        | notUsable id reason => exact .inr (.inl ⟨⟨_, rfl, by simp⟩, hb.symm⟩)
  | prossegue => cases h
  | identificador id => cases h
  | resolucao result => cases h
  | efeito result => cases h

/-- A usable row makes a transition of it a new write. -/
theorem novo_of_usable {store : ApprovalStore} {envelope : DestructiveApprovalEnvelope}
    {exigirNaoVencida : Bool} {julgado agora : Instant} {r : ApprovalRecord}
    {destino : ApprovalLifecycleState} (hdestino : destino ≠ .active)
    (hstore : (b.vista i).aprovacoes.settle = .ok store)
    (hr : Usable store.toApprovalTables envelope exigirNaoVencida julgado r)
    (hfree : b.preso i (Escrita.toca envelope.approvalId) = false) :
    b.Novo i (.transicao envelope.approvalId destino agora) := by
  have htables := of_settle hstore
  obtain ⟨hmem, hid⟩ := of_get hr.holds.record
  refine ⟨hdestino, ?_⟩
  rintro id rfl
  rw [← htables]
  refine ⟨hfree, List.mem_map.mpr ⟨r, hmem, hid⟩, ?_⟩
  rintro ⟨r', hmem', hid', hstate⟩
  rw [List.inj_on_of_nodup_map store.sound.record_ids hmem' hmem (hid'.trans hid.symm)] at hstate
  exact hstate hr.active

/-- The receipt that a call has written. -/
def lancado : Answered Chamada Resposta → Option ErasureRecord
  | ⟨.registrar entrada, .ok id⟩ => some ⟨entrada.toReceiptFields, id⟩
  | _ => none

/-- The receipt that a write adds. -/
def lancada : Escrita → Option ErasureRecord
  | .recibo r => some r
  | _ => none

/-- What the answer to a call does to the database: its transaction ends without
effect, nothing happens, a write is made, or its writes are committed. -/
inductive Feito (b : Banco) (i : Nat) : Answered Chamada Resposta → Banco → Prop
  | desfeito {e : Answered Chamada Resposta} (h : encerra e = some false) :
      Feito b i e (b.desfeito i)
  | nada {e : Answered Chamada Resposta} (h : encerra e = none) (hid : ∀ id, ¬ sucesso id e)
      (hlanca : lancado e = none) : Feito b i e b
  | escrita {e : Answered Chamada Resposta} (w : Escrita) (h : encerra e = none)
      (hw : b.Novo i w) (hid : ∀ id, sucesso id e → w.transita id) (hlanca : lancada w = lancado e)
      (hnovo : ∀ r, lancada w = some r → r.id ∉ b.idsDeRecibos) : Feito b i e (b.anotado i w)
  | efetivado {e : Answered Chamada Resposta} (store : ApprovalStore) (h : encerra e = some true)
      (hstore : store.toApprovalTables = (b.vista i).aprovacoes) : Feito b i e (b.efetivado i store)

theorem feito_transitar {c : Chamada} {a : Resposta c} {envelope : DestructiveApprovalEnvelope}
    {destino : ApprovalLifecycleState} {exigirNaoVencida : Bool} {escolha : Escolha}
    {a' : Except TransitionError ApprovalRecord} (hdestino : destino ≠ .active)
    (hend : encerra ⟨c, a⟩ = aborta a' recusada)
    (hdone : ∀ id, sucesso id ⟨c, a⟩ → envelope.approvalId = id ∧ ∃ r, a' = .ok r)
    (hlanca : lancado ⟨c, a⟩ = none)
    (h : b.transitar i envelope destino exigirNaoVencida escolha = some (a', b')) :
    Feito b i ⟨c, a⟩ b' := by
  rcases transitar_cases hdestino h with ⟨⟨erro, rfl⟩, rfl⟩ | ⟨⟨erro, rfl, hne⟩, rfl⟩ |
    ⟨relogio, store, r, -, hstore, hr, hfree, ha, rfl⟩
  · exact .desfeito hend
  · refine .nada (hend.trans ?_) (fun id hid => ?_) hlanca
    · cases erro with
      | database e => exact absurd rfl (hne e)
      | driver | notUsable _ _ => rfl
    · obtain ⟨-, r, hr⟩ := hdone id hid
      cases hr
  · refine .escrita _ (hend.trans ?_) (novo_of_usable hdestino hstore hr hfree)
      (fun id hid => (hdone id hid).1) hlanca.symm fun r hr => by cases hr
    rcases ha with rfl | rfl <;> rfl

theorem feito_responder {c : Chamada} {a : Resposta c} {escolha : Escolha}
    (h : b.responder i c escolha = some (a, b')) : Feito b i ⟨c, a⟩ b' := by
  cases c with
  | resolver referencia =>
    cases escolha with
    | resolucao result | falha =>
      obtain ⟨rfl, rfl⟩ := Prod.mk.inj (Option.some.inj h)
      exact .nada rfl (fun _ => id) rfl
    | prossegue | relogio _ | identificador _ | efeito _ => cases h
  | consumir envelope => exact feito_transitar (by decide) rfl (fun _ => id) rfl h
  | revogar envelope => exact feito_transitar (by decide) rfl (fun _ => id) rfl h
  | aprovar envelope =>
    cases escolha with
    | falha =>
      obtain ⟨rfl, rfl⟩ := Prod.mk.inj (Option.some.inj h)
      exact .desfeito rfl
    | prossegue =>
      simp only [responder, aprovar] at h
      split at h
      · obtain ⟨rfl, rfl⟩ := Prod.mk.inj (Option.some.inj h)
        exact .desfeito rfl
      · split at h
        · obtain ⟨rfl, rfl⟩ := Prod.mk.inj (Option.some.inj h)
          exact .desfeito rfl
        · split at h
          · cases h
          · obtain ⟨rfl, rfl⟩ := Prod.mk.inj (Option.some.inj h)
            exact .escrita _ rfl ⟨trivial, fun _ => False.elim⟩ (fun _ => id) rfl
              fun r hr => by cases hr
    | relogio _ | identificador _ | resolucao _ | efeito _ => cases h
  | registrar entrada =>
    cases escolha with
    | falha =>
      obtain ⟨rfl, rfl⟩ := Prod.mk.inj (Option.some.inj h)
      exact .desfeito rfl
    | identificador novo =>
      simp only [responder, registrar] at h
      split at h
      · obtain ⟨rfl, rfl⟩ := Prod.mk.inj (Option.some.inj h)
        exact .desfeito rfl
      · split at h
        · cases h
        · rename_i hfresh
          obtain ⟨rfl, rfl⟩ := Prod.mk.inj (Option.some.inj h)
          refine .escrita _ rfl ⟨trivial, fun _ => False.elim⟩ (fun _ => id) rfl fun r hr => ?_
          cases hr
          simpa using hfresh
    | prossegue | relogio _ | resolucao _ | efeito _ => cases h
  | commit =>
    cases escolha with
    | falha =>
      obtain ⟨rfl, rfl⟩ := Prod.mk.inj (Option.some.inj h)
      exact .desfeito rfl
    | prossegue =>
      simp only [responder, commit] at h
      split at h
      · obtain ⟨rfl, rfl⟩ := Prod.mk.inj (Option.some.inj h)
        exact .desfeito rfl
      · rename_i store hstore
        obtain ⟨rfl, rfl⟩ := Prod.mk.inj (Option.some.inj h)
        exact .efetivado store rfl (of_settle hstore)
    | relogio _ | identificador _ | resolucao _ | efeito _ => cases h
  | fechar =>
    obtain ⟨rfl, rfl⟩ := Prod.mk.inj (Option.some.inj h)
    exact .desfeito rfl
  | tentar pedido =>
    cases escolha with
    | efeito result | falha =>
      obtain ⟨rfl, rfl⟩ := Prod.mk.inj (Option.some.inj h)
      exact .nada rfl (fun _ => id) rfl
    | prossegue | relogio _ | identificador _ | resolucao _ => cases h

end Banco

/-! ## Along a run -/

section Runs

open Banco

variable {α : Type} {w w' : World Banco Chamada Resposta α Escolha}
  {m : Move Chamada Resposta α Escolha} {front middle post : List (Event Chamada Resposta Escolha)}
  {e s s' : Event Chamada Resposta Escolha} {approvalId : Uuid}

/-- How the transaction that is open before the calls ends in them. -/
def desfecho : List (Answered Chamada Resposta) → Option Bool
  | [] => none
  | e :: log => (encerra e).or (desfecho log)

theorem desfecho_append (log log' : List (Answered Chamada Resposta)) :
    desfecho (log ++ log') = (desfecho log).or (desfecho log') := by
  induction log with
  | nil => simp [desfecho]
  | cons e log ih => simp [desfecho, ih, Option.or_assoc]

theorem desfecho_snoc (log : List (Answered Chamada Resposta)) (e : Answered Chamada Resposta) :
    desfecho (log ++ [e]) = (desfecho log).or (encerra e) := by
  simp [desfecho_append, desfecho]

/-- What the calls so far and the database agree on: a transition of an open
transaction is pending, and that of a committed one is there. -/
structure Coerente (w : World Banco Chamada Resposta α Escolha) : Prop where
  firme : w.state.Firme
  abertas : ∀ front e middle id, w.events = front ++ e :: middle → sucesso id e.toAnswered →
    desfecho (callsOf middle e.process) = none → w.live e.process ≠ none →
    ∃ p ∈ w.state.pendentes, p.1 = e.process ∧ p.2.transita id
  fechadas : ∀ front e middle id, w.events = front ++ e :: middle → sucesso id e.toAnswered →
    desfecho (callsOf middle e.process) = some true →
    Decidido w.state.aprovacoes.toApprovalTables id

/-- The transaction of a transition was rolled back, or its process has stopped and
calls nothing in the rest of the run. -/
def Perdida (w : World Banco Chamada Resposta α Escolha) (s : Event Chamada Resposta Escolha)
    (middle rest : List (Event Chamada Resposta Escolha)) : Prop :=
  desfecho (callsOf middle s.process) = some false ∨
    desfecho (callsOf middle s.process) = none ∧ callsOf rest s.process = [] ∧
      w.live s.process = none

/-- What was lost is never committed. -/
theorem Perdida.not_committed {rest : List (Event Chamada Resposta Escolha)}
    (h : Perdida w s middle rest) : desfecho (callsOf (middle ++ rest) s.process) ≠ some true := by
  rw [callsOf_append, desfecho_append]
  rcases h with hlost | ⟨hopen, hrest, -⟩
  · simp [hlost]
  · simp [hopen, hrest, desfecho]

/-- What a call leaves of the pending writes of other processes. -/
theorem Banco.Feito.pendentes {b b' : Banco} {i : Nat} {e : Answered Chamada Resposta}
    (h : b.Feito i e b') {p : Nat × Escrita} (hp : p ∈ b.pendentes)
    (hkeep : p.1 ≠ i ∨ encerra e = none) : p ∈ b'.pendentes := by
  cases h with
  | desfeito h => exact mem_desfeito.mpr ⟨hp, hkeep.resolve_right (by simp [h])⟩
  | nada h hid => exact hp
  | escrita w h hw hid => exact List.mem_append_left _ hp
  | efetivado store h hstore => exact mem_desfeito.mpr ⟨hp, hkeep.resolve_right (by simp [h])⟩

/-- What is decided stays so. -/
theorem Banco.Feito.decidido {b b' : Banco} {i : Nat} {e : Answered Chamada Resposta}
    (h : b.Feito i e b') (hb : b.Firme)
    (hid : Decidido b.aprovacoes.toApprovalTables approvalId) :
    Decidido b'.aprovacoes.toApprovalTables approvalId := by
  cases h with
  | desfeito h => exact hid
  | nada h hid' => exact hid
  | escrita w h hw hid' => exact hid
  | efetivado store h hstore =>
    show Decidido store.toApprovalTables approvalId
    rw [hstore]
    exact hb.decidido_vista hid

theorem Banco.Feito.firme {b b' : Banco} {i : Nat} {e : Answered Chamada Resposta}
    (h : b.Feito i e b') (hb : b.Firme) : b'.Firme := by
  cases h with
  | desfeito h => exact hb.desfeito i
  | nada h hid => exact hb
  | escrita w h hw hid => exact hb.anotado hw
  | efetivado store h hstore => exact hb.efetivado hstore

theorem encerra_of_sucesso {e : Answered Chamada Resposta} (h : sucesso approvalId e) :
    encerra e = none := by
  obtain ⟨c, a⟩ := e
  cases c with
  | consumir envelope | revogar envelope =>
    obtain ⟨-, r, rfl⟩ := h
    rfl
  | resolver _ | aprovar _ | registrar _ | commit | fechar | tentar _ => exact h.elim

/-- A call that succeeds writes a new transition. -/
theorem Banco.Feito.of_sucesso {b b' : Banco} {i : Nat} {e : Answered Chamada Resposta}
    (h : b.Feito i e b') (hid : sucesso approvalId e) :
    ∃ w, b' = b.anotado i w ∧ b.Novo i w ∧ w.transita approvalId := by
  have hopen := encerra_of_sucesso hid
  cases h with
  | desfeito h => simp [hopen] at h
  | nada h hnot => exact absurd hid (hnot _)
  | escrita w h hw hsuccess => exact ⟨w, rfl, hw, hsuccess _ hid⟩
  | efetivado store h hstore => simp [hopen] at h

theorem Coerente.answer (h : Coerente w) {i : Nat} {c : Chamada} {a : Resposta c}
    {choice : Escolha} {k : Resposta c → Proc Chamada Resposta α} {b : Banco}
    (hlive : w.live i = some (.call c k)) (hfeito : w.state.Feito i ⟨c, a⟩ b) :
    Coerente { w with
      state := b
      live := w.setLive i (some (k a))
      events := w.events ++ [⟨⟨c, a⟩, i, choice⟩] } := by
  have halive : ∀ j, (w.setLive i (some (k a))) j ≠ none → w.live j ≠ none := by
    intro j hj
    simp only [World.setLive] at hj
    split at hj
    case isTrue hji => simp [hji, hlive]
    case isFalse => exact hj
  constructor
  case firme => exact hfeito.firme h.firme
  case abertas =>
    intro front e middle id hevents hid hopen hj
    rcases split_snoc hevents with ⟨rfl, rfl, rfl⟩ | ⟨middle', rfl, hbefore⟩
    · obtain ⟨w', rfl, -, hw'⟩ := hfeito.of_sucesso hid
      exact ⟨_, List.mem_append_right _ List.mem_cons_self, rfl, hw'⟩
    · rw [callsOf_append] at hopen
      by_cases hp : i = e.process
      · rw [callsOf_cons_self hp, callsOf_nil, desfecho_snoc, Option.or_eq_none_iff] at hopen
        obtain ⟨p, hp', hprocess, htransit⟩ :=
          h.abertas front e middle' id hbefore hid hopen.1 (halive _ hj)
        exact ⟨p, hfeito.pendentes hp' (.inr hopen.2), hprocess, htransit⟩
      · rw [callsOf_cons_ne hp, callsOf_nil, List.append_nil] at hopen
        obtain ⟨p, hp', hprocess, htransit⟩ :=
          h.abertas front e middle' id hbefore hid hopen (halive _ hj)
        exact ⟨p, hfeito.pendentes hp' (.inl (hprocess ▸ Ne.symm hp)), hprocess, htransit⟩
  case fechadas =>
    intro front e middle id hevents hid hclosed
    rcases split_snoc hevents with ⟨rfl, rfl, rfl⟩ | ⟨middle', rfl, hbefore⟩
    · cases hclosed
    · rw [callsOf_append] at hclosed
      by_cases hp : i = e.process
      · rw [callsOf_cons_self hp, callsOf_nil, desfecho_snoc] at hclosed
        cases hmiddle : desfecho (callsOf middle' e.process) with
        | some ended =>
          rw [hmiddle, Option.some_or] at hclosed
          exact hfeito.decidido h.firme
            (h.fechadas front e middle' id hbefore hid (hmiddle.trans hclosed))
        | none =>
          rw [hmiddle, Option.none_or] at hclosed
          obtain ⟨p, hp', hprocess, htransit⟩ := h.abertas front e middle' id hbefore hid hmiddle
            (by simp [← hp, hlive])
          cases hfeito with
          | desfeito hend | nada hend _ | escrita _ hend _ _ => simp [hend] at hclosed
          | efetivado store hend hstore =>
            show Decidido store.toApprovalTables id
            rw [hstore]
            refine h.firme.decidido (mem_escritasDe.mpr ?_) htransit
            rwa [hp, ← hprocess]
      · rw [callsOf_cons_ne hp, callsOf_nil, List.append_nil] at hclosed
        exact hfeito.decidido h.firme (h.fechadas front e middle' id hbefore hid hclosed)

theorem Coerente.next (h : Coerente w) (htracked : w.Tracked)
    (hnext : w.next Banco.servico m = some w') : Coerente w' := by
  rcases World.next_cases hnext with ⟨p, -, rfl⟩ | ⟨i, choice, c, k, a, b, -, hlive, hb, rfl⟩ |
    ⟨i, p, -, -, rfl⟩
  · refine ⟨h.firme, fun front e middle id hevents hid hopen hj => ?_, h.fechadas⟩
    refine h.abertas front e middle id hevents hid hopen ?_
    have hstarted := htracked.answered e (by rw [hevents]; simp)
    simpa [World.setLive, Nat.ne_of_lt hstarted] using hj
  · exact h.answer hlive (Banco.feito_responder hb)
  · refine ⟨h.firme.desfeito i, fun front e middle id hevents hid hopen hj => ?_, h.fechadas⟩
    have hne : e.process ≠ i := fun heq => hj (by simp [World.setLive, heq])
    simp only [World.setLive, hne, if_false] at hj
    obtain ⟨p, hp, hprocess, htransit⟩ := h.abertas front e middle id hevents hid hopen hj
    exact ⟨p, mem_desfeito.mpr ⟨hp, hprocess ▸ hne⟩, hprocess, htransit⟩

theorem coerente_of_reachable {allowed : Proc Chamada Resposta α → Prop} {aprovacoes : ApprovalStore}
    {recibos : List ErasureRecord}
    (h : World.Reachable Banco.servico allowed ⟨aprovacoes, recibos, []⟩ w) : Coerente w := by
  induction h with
  | initial =>
    refine ⟨⟨by simp [World.initial], ?_, by simp [World.initial], by simp [World.initial]⟩,
      by simp [World.initial], by simp [World.initial]⟩
    intro i front w post hsplit
    simp [World.initial, escritasDe] at hsplit
  | move m hreach _ hnext ih => exact ih.next hreach.tracked hnext

/-- Before a transition succeeds, every earlier one of the record was rolled back or
its process has stopped. -/
theorem Coerente.perdida (h : Coerente w) {c : Chamada} {a : Resposta c} {i : Nat} {b : Banco}
    (hfeito : w.state.Feito i ⟨c, a⟩ b) (hsuccess : sucesso approvalId ⟨c, a⟩)
    (hevents : w.events = front ++ s :: middle) (hs : sucesso approvalId s.toAnswered) :
    desfecho (callsOf middle s.process) = some false ∨
      desfecho (callsOf middle s.process) = none ∧ w.live s.process = none := by
  obtain ⟨w', -, hw', htransit⟩ := hfeito.of_sucesso hsuccess
  cases hdone : desfecho (callsOf middle s.process) with
  | none =>
    refine .inr ⟨rfl, ?_⟩
    by_contra hlive
    obtain ⟨p, hp, -, hp'⟩ := h.abertas front s middle approvalId hevents hs hdone hlive
    exact h.firme.livre hw' htransit p hp hp'
  | some committed =>
    cases committed with
    | false => exact .inl rfl
    | true =>
      exact absurd (h.fechadas front s middle approvalId hevents hs hdone)
        (h.firme.ativo hw' htransit)

/-- Of two transitions of one record that succeed, the first was lost before the
second. -/
theorem perdida_of_reachable {allowed : Proc Chamada Resposta α → Prop}
    {aprovacoes : ApprovalStore} {recibos : List ErasureRecord}
    (h : World.Reachable Banco.servico allowed ⟨aprovacoes, recibos, []⟩ w)
    (hevents : w.events = front ++ s :: middle ++ s' :: post)
    (hs : sucesso approvalId s.toAnswered) (hs' : sucesso approvalId s'.toAnswered) :
    Perdida w s middle (s' :: post) := by
  induction h generalizing front middle post with
  | initial => simp [World.initial] at hevents
  | @move w w' m hreach _ hnext ih =>
    have hstarted : ∀ front' post', w.events = front' ++ s :: post' →
        s.process < w.programs.length := fun _ _ hw =>
      hreach.tracked.answered s (by rw [hw]; simp)
    have hkeep : Perdida w s middle (s' :: post) → w.events = front ++ s :: middle ++ s' :: post →
        Perdida w' s middle (s' :: post) := by
      rintro (hlost | ⟨hopen, hrest, hlive⟩) hw
      · exact .inl hlost
      · refine .inr ⟨hopen, hrest, World.stopped hnext (hstarted front (middle ++ s' :: post) ?_) hlive⟩
        simpa using hw
    rcases World.next_cases hnext with ⟨p, -, rfl⟩ | ⟨i, choice, c, k, a, b, -, hlive, hb, rfl⟩ |
      ⟨i, p, -, -, rfl⟩
    · exact hkeep (ih hevents) hevents
    · have hother : w.live s.process = none → i ≠ s.process := by
        rintro hnone rfl
        rw [hlive] at hnone
        cases hnone
      rcases split_snoc hevents with ⟨hbefore, rfl, rfl⟩ | ⟨post', rfl, hbefore⟩
      · rcases (coerente_of_reachable hreach).perdida (Banco.feito_responder hb) hs' hbefore.symm
          hs with hlost | ⟨hopen, hnone⟩
        · exact .inl hlost
        · refine .inr ⟨hopen, callsOf_cons_ne (hother hnone), ?_⟩
          simpa [World.setLive, (hother hnone).symm] using hnone
      · rcases ih hbefore with hlost | ⟨hopen, hrest, hnone⟩
        · exact .inl hlost
        · refine .inr ⟨hopen, ?_, ?_⟩
          · rw [← List.cons_append, callsOf_append, hrest, callsOf_cons_ne (hother hnone)]
            rfl
          · simpa [World.setLive, (hother hnone).symm] using hnone
    · exact hkeep (ih hevents) hevents

/-- Consumption succeeds exactly on an active record that holds the envelope, before
it expires and when the row can be read back; otherwise it changes nothing. Of two
transitions of one record that succeed, in any interleaving, the first was lost. -/
theorem consumption_exact :
    (∀ (store : ApprovalStore) (expected : DestructiveApprovalEnvelope) (relogio : Relogio),
      ((∃ r', (consumeOnce store expected relogio).1 = .ok r') ↔
        ∃ r, Holds store.toApprovalTables expected r ∧ r.state = .active ∧
          relogio.julgado < r.expiresAt ∧
          (∀ instant ∈ expected.instants, readable instant = true) ∧
          readable relogio.escrito = true) ∧
      ((∀ r', (consumeOnce store expected relogio).1 ≠ .ok r') →
        (∀ instant ∈ expected.instants, readable instant = true) →
        readable relogio.escrito = true → (consumeOnce store expected relogio).2 = store)) ∧
    ∀ (α : Type) (allowed : Proc Chamada Resposta α → Prop) (aprovacoes : ApprovalStore)
      (recibos : List ErasureRecord) (w : World Banco Chamada Resposta α Escolha),
      World.Reachable Banco.servico allowed ⟨aprovacoes, recibos, []⟩ w →
      ∀ (approvalId : Uuid) (front middle post : List (Event Chamada Resposta Escolha))
        (s s' : Event Chamada Resposta Escolha), w.events = front ++ s :: middle ++ s' :: post →
        sucesso approvalId s.toAnswered → sucesso approvalId s'.toAnswered →
        Perdida w s middle (s' :: post) :=
  ⟨fun _ _ _ => ⟨consumeOnce_ok_iff, consumeOnce_unchanged⟩,
    fun _ _ _ _ _ h _ _ _ _ _ _ hevents hs hs' => perdida_of_reachable h hevents hs hs'⟩

/-- The approval of one small file. -/
def pequenoArquivo : DestructiveApprovalEnvelope :=
  { grandeArquivo with
    proposal := { grandeArquivo.proposal with
      impact := ⟨1, .known, some 10, by decide⟩
      accepted := by decide }
    accepted := by decide }

/-- It expires within the last hours of the calendar of its own time zone. -/
def semVencimento : DestructiveApprovalEnvelope :=
  { pequenoArquivo with
    expiresAt := 253402311599000000
    accepted := by decide }

def consomeEFecha (envelope : DestructiveApprovalEnvelope) : Proc Chamada Resposta Unit :=
  .call (.consumir envelope) fun _ => .call .fechar fun _ => .done ()

/-- The store of that approval alone. -/
def umArquivo : ApprovalStore := ⟨withRows {} pequenoArquivo, by decide +kernel⟩

/-- Two processes consume one approval; the first closes without a commit. -/
def consumidaDuasVezes : Option (World Banco Chamada Resposta Unit Escolha) :=
  (World.initial ⟨umArquivo, [], []⟩).run Banco.servico
    [.start (consomeEFecha pequenoArquivo), .start (consomeEFecha pequenoArquivo),
      .answer 0 (.relogio ⟨2, 2, 2⟩), .answer 0 .prossegue, .answer 1 (.relogio ⟨2, 2, 2⟩)]

private theorem consumidaDuasVezes_events : ∃ w s middle s', consumidaDuasVezes = some w ∧
    w.events = [s, middle, s'] ∧ sucesso ⟨6⟩ s.toAnswered ∧ sucesso ⟨6⟩ s'.toAnswered := by
  have htwice : consumidaDuasVezes.any (fun w => w.events.map (fun e =>
      decide (sucesso ⟨6⟩ e.toAnswered)) = [true, false, true]) = true := by decide +kernel
  obtain ⟨w, hrun, hmap⟩ := (Option.any_eq_true _ _).mp htwice
  obtain ⟨s, rest, hevents, hs, hrest⟩ := List.map_eq_cons_iff.mp (of_decide_eq_true hmap)
  obtain ⟨middle, rest, rfl, -, hrest⟩ := List.map_eq_cons_iff.mp hrest
  obtain ⟨s', rest, rfl, hs', hrest⟩ := List.map_eq_cons_iff.mp hrest
  obtain rfl := List.map_eq_nil_iff.mp hrest
  exact ⟨w, s, middle, s', hrun, hevents, of_decide_eq_true hs, of_decide_eq_true hs'⟩

/-- The driver reads no record that expires so late. Both calls on one record succeed
when the first is rolled back. -/
theorem consumed_inexactly :
    (∃ store r, Holds store.toApprovalTables semVencimento r ∧ r.state = .active ∧
      2 < r.expiresAt ∧ ∀ r', (consumeOnce store semVencimento ⟨2, 2, 2⟩).1 ≠ .ok r') ∧
    ∃ w s middle s', consumidaDuasVezes = some w ∧ w.events = [s, middle, s'] ∧
      sucesso ⟨6⟩ s.toAnswered ∧ sucesso ⟨6⟩ s'.toAnswered := by
  constructor
  · refine ⟨⟨withRows {} semVencimento, by decide +kernel⟩, registroDe semVencimento,
      ⟨by decide +kernel, by decide +kernel, by decide +kernel, fun kind => ?_⟩, by decide +kernel,
      by decide +kernel, fun r' h => ?_⟩
    · cases kind <;> decide +kernel
    · have hdriver : (consumeOnce ⟨withRows {} semVencimento, by decide +kernel⟩ semVencimento
          ⟨2, 2, 2⟩).1 = .error .driver := by decide +kernel
      rw [hdriver] at h
      cases h
  · exact consumidaDuasVezes_events

/-- In that run the first call was lost. -/
theorem consumption_exact_consumidaDuasVezes : ∃ w s middle rest, consumidaDuasVezes = some w ∧
    w.events = s :: middle ++ rest ∧ sucesso ⟨6⟩ s.toAnswered ∧ Perdida w s middle rest := by
  obtain ⟨w, s, middle, s', hrun, hevents, hs, hs'⟩ := consumidaDuasVezes_events
  have hreach := World.Reachable.run .initial (fun _ _ => trivial) hrun
  exact ⟨w, s, [middle], [s'], hrun, hevents, hs, consumption_exact.2 Unit (fun _ => True) _ _ w hreach ⟨6⟩ []
    [middle] [] s s' hevents hs hs'⟩

end Runs

end PiaOs.Memory
