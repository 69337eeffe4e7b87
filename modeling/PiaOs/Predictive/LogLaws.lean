import PiaOs.Predictive.Gates

/-!
# The log over whole runs

Every step keeps the versions dense, the events legitimate and the answers of every gate on
its way true.
-/

namespace PiaOs.Predictive

open Support Memory Piap

/-! ## Legitimate events -/

/-- The event was appended by a call that was made, and a rollback goes back to an earlier
event of the log. -/
structure Legitimo (pedidos : List Pedido) (log : List Evento) (e : Evento) : Prop where
  passo : e.fromVersion = e.toVersion - 1
  promocao : e.eventKind = .promote → ∃ p approval, .promocao p ∈ pedidos ∧ p.Aprova approval ∧
    e = p.evento approval
  reversao : e.eventKind = .rollback → ∃ r approval target, .reversao r ∈ pedidos ∧
    r.Aprova approval target ∧ e = r.evento approval target ∧ target ∈ log ∧
    target.toVersion < e.toVersion

theorem Legitimo.mono {pedidos pedidos' : List Pedido} {log log' : List Evento} {e : Evento}
    (h : Legitimo pedidos log e) (hpedidos : pedidos ⊆ pedidos') (hlog : log ⊆ log') :
    Legitimo pedidos' log' e where
  passo := h.passo
  promocao := by
    intro hkind
    obtain ⟨p, approval, hp, haprova, heq⟩ := h.promocao hkind
    exact ⟨p, approval, hpedidos hp, haprova, heq⟩
  reversao := by
    intro hkind
    obtain ⟨r, approval, target, hr, haprova, heq, htarget, hearlier⟩ := h.reversao hkind
    exact ⟨r, approval, target, hpedidos hr, haprova, heq, hlog htarget, hearlier⟩

/-! ## True answers -/

/-- An answer says something true of the events that the session sees, and of those that were
committed when its gate began. -/
structure Verdade (inicio vista : List Evento) (a : Answered Chamada Resposta) : Prop where
  get : ∀ id e, a = ⟨.get id, some (some e)⟩ → e ∈ vista ∧ e.eventId = id
  current : ∀ subjectKey (atual : Option Evento), a = ⟨.current subjectKey, some atual⟩ →
    (∀ m, atual = some m → m ∈ vista ∧ m.subjectKey = subjectKey) ∧
      ∀ e ∈ inicio, e.subjectKey = subjectKey → e.toVersion ≤ versaoDe atual
  insert : ∀ e, a = ⟨.insert e, Insercao.feita⟩ → ∀ e' ∈ inicio, ¬Colide e' e

theorem Verdade.mono {inicio vista vista' : List Evento} {a : Answered Chamada Resposta}
    (h : Verdade inicio vista a) (hsub : vista ⊆ vista') : Verdade inicio vista' a where
  get := by
    intro id e ha
    obtain ⟨hmem, hid⟩ := h.get id e ha
    exact ⟨hsub hmem, hid⟩
  current := by
    intro subjectKey atual ha
    obtain ⟨hsome, hbound⟩ := h.current subjectKey atual ha
    refine ⟨fun m hm => ?_, hbound⟩
    obtain ⟨hmem, hkey⟩ := hsome m hm
    exact ⟨hsub hmem, hkey⟩
  insert := h.insert

/-- The answers of the table are true. -/
theorem verdade_of_responde {w : Mundo} {i : ℕ} {c : Chamada} {a : Resposta c}
    {pendentes inicio : List Evento} (h : Responde w i c a pendentes) (hinicio : inicio ⊆ w.log) :
    Verdade inicio (w.vista i) ⟨c, a⟩ := by
  have hsees : inicio ⊆ w.vista i := fun e he => List.mem_append_left _ (hinicio he)
  have hcall : ∀ {c c' : Chamada} {a : Resposta c} {a' : Resposta c'},
      (⟨c, a⟩ : Answered Chamada Resposta) = ⟨c', a'⟩ → c = c' := fun ha => (Answered.mk.inj ha).1
  cases h with
  | @get id =>
    refine ⟨fun id' e ha => ?_, fun k atual ha => (by cases hcall ha),
      fun e ha => (by cases hcall ha)⟩
    obtain ⟨hcall, hanswer⟩ := Answered.mk.inj ha
    obtain rfl := Chamada.get.inj hcall
    have hfound := Option.some.inj (eq_of_heq hanswer)
    exact ⟨List.mem_of_find?_eq_some hfound, by simpa using List.find?_some hfound⟩
  | @current subjectKey =>
    refine ⟨fun id e ha => (by cases hcall ha), fun k atual ha => ?_,
      fun e ha => (by cases hcall ha)⟩
    obtain ⟨hcall, hanswer⟩ := Answered.mk.inj ha
    obtain rfl := Chamada.current.inj hcall
    have hatual := Option.some.inj (eq_of_heq hanswer)
    rw [← hatual]
    refine ⟨fun m hm => ?_, fun e he hkey => le_versaoDe_corrente (hsees he) hkey⟩
    obtain ⟨hmem, hkey, -⟩ := corrente_eq_some hm
    exact ⟨hmem, hkey⟩
  | getFalha =>
    refine ⟨fun id e ha => ?_, fun k atual ha => (by cases hcall ha),
      fun e ha => (by cases hcall ha)⟩
    obtain ⟨hcall, hanswer⟩ := Answered.mk.inj ha
    obtain rfl := Chamada.get.inj hcall
    cases eq_of_heq hanswer
  | currentFalha =>
    refine ⟨fun id e ha => (by cases hcall ha), fun k atual ha => ?_,
      fun e ha => (by cases hcall ha)⟩
    obtain ⟨hcall, hanswer⟩ := Answered.mk.inj ha
    obtain rfl := Chamada.current.inj hcall
    cases eq_of_heq hanswer
  | @feita e livre esperou =>
    refine ⟨fun id e ha => (by cases hcall ha), fun k atual ha => (by cases hcall ha),
      fun e' ha => ?_⟩
    obtain ⟨hcall, -⟩ := Answered.mk.inj ha
    obtain rfl := Chamada.insert.inj hcall
    exact fun e' he' => livre e' (hsees he')
  | identidade | versao | falha =>
    refine ⟨fun id e ha => (by cases hcall ha), fun k atual ha => (by cases hcall ha),
      fun e' ha => ?_⟩
    obtain ⟨hcall, hanswer⟩ := Answered.mk.inj ha
    obtain rfl := Chamada.insert.inj hcall
    cases eq_of_heq hanswer

/-! ## The invariant -/

structure Execucao.Coerente (ex : Execucao) (pedidos : List Pedido) (log vista : List Evento) :
    Prop where
  caminho : Proc.Path ex.pedido.portao ex.feito ex.resta
  verdade : ∀ a ∈ ex.feito, Verdade ex.inicio vista a
  inicio : ex.inicio ⊆ log
  pedido : ex.pedido ∈ pedidos

theorem Execucao.Coerente.mono {ex : Execucao} {pedidos pedidos' : List Pedido}
    {log log' vista vista' : List Evento} (h : ex.Coerente pedidos log vista)
    (hpedidos : pedidos ⊆ pedidos') (hlog : log ⊆ log') (hvista : vista ⊆ vista') :
    ex.Coerente pedidos' log' vista' where
  caminho := h.caminho
  verdade := fun a ha => (h.verdade a ha).mono hvista
  inicio := fun _ he => hlog (h.inicio he)
  pedido := hpedidos h.pedido

structure Mundo.Coerente (w : Mundo) : Prop where
  denso : Denso w.log
  densas : ∀ i, Denso (w.vista i)
  exclusivas : ∀ i j, i ≠ j → ∀ e ∈ w.pendentes i, ∀ e' ∈ w.pendentes j, ¬Colide e e'
  unicos : ∀ i, ∀ e ∈ w.vista i, ∀ e' ∈ w.vista i, e.eventId = e'.eventId → e = e'
  legitimos : ∀ i, ∀ e ∈ w.vista i, Legitimo w.pedidos (w.vista i) e
  confirmados : ∀ e ∈ w.log, Legitimo w.pedidos w.log e
  execucoes : ∀ i ex, w.emCurso i = some ex → ex.Coerente w.pedidos w.log (w.vista i)

theorem coerente_vazio : Mundo.vazio.Coerente where
  denso := fun _ => ⟨0, rfl⟩
  densas := fun _ _ => ⟨0, rfl⟩
  exclusivas := by
    intro i j _ e he
    cases he
  unicos := by
    intro i e he
    cases he
  legitimos := by
    intro i e he
    cases he
  confirmados := by
    intro e he
    cases he
  execucoes := by
    intro i ex hex
    cases hex

namespace Mundo.Coerente

variable {w : Mundo} {i : ℕ}

theorem iniciado (h : w.Coerente) {pedido : Pedido} : (w.iniciado i pedido).Coerente where
  denso := h.denso
  densas := h.densas
  exclusivas := h.exclusivas
  unicos := h.unicos
  legitimos := fun j e he =>
    (h.legitimos j e he).mono (List.subset_append_left _ _) (List.Subset.refl _)
  confirmados := fun e he =>
    (h.confirmados e he).mono (List.subset_append_left _ _) (List.Subset.refl _)
  execucoes := by
    intro j ex hex
    change Function.update w.emCurso i _ j = some ex at hex
    by_cases hj : j = i
    · subst hj
      rw [Function.update_self] at hex
      rw [← Option.some.inj hex]
      refine ⟨.nil _, fun a ha => ?_, List.Subset.refl _, ?_⟩
      · cases ha
      · exact List.mem_append_right _ List.mem_cons_self
    · rw [Function.update_of_ne hj] at hex
      exact (h.execucoes j ex hex).mono (List.subset_append_left _ _) (List.Subset.refl _)
        (List.Subset.refl _)

/-- A gate goes on with a true answer. -/
theorem avancada (h : w.Coerente) {ex : Execucao} {c : Chamada}
    {k : Resposta c → Programa Desfecho} {a : Resposta c} {pendentes : List Evento}
    (hex : w.emCurso i = some ex) (hresta : ex.resta = .call c k)
    (hresposta : Responde w i c a pendentes) {vista : List Evento} (hsub : w.vista i ⊆ vista) :
    ({ ex with feito := ex.feito ++ [⟨c, a⟩], resta := k a } : Execucao).Coerente
      w.pedidos w.log vista := by
  have hcoerente := h.execucoes i ex hex
  have hpath := hcoerente.caminho
  rw [hresta] at hpath
  refine ⟨hpath.snoc a, fun a' ha' => ?_, hcoerente.inicio, hcoerente.pedido⟩
  rcases List.mem_append.mp ha' with hbefore | hlast
  · exact (hcoerente.verdade a' hbefore).mono hsub
  · rw [List.mem_singleton.mp hlast]
    exact (verdade_of_responde hresposta hcoerente.inicio).mono hsub

/-- An answer that inserts nothing. -/
theorem lida (h : w.Coerente) {ex : Execucao} {c : Chamada} {k : Resposta c → Programa Desfecho}
    {a : Resposta c} (hex : w.emCurso i = some ex) (hresta : ex.resta = .call c k)
    (hresposta : Responde w i c a (w.pendentes i)) :
    (w.respondido i ex c a (k a) (w.pendentes i)).Coerente := by
  have hpendentes : (w.respondido i ex c a (k a) (w.pendentes i)).pendentes = w.pendentes :=
    Function.update_eq_self i w.pendentes
  have hvista : ∀ j, (w.respondido i ex c a (k a) (w.pendentes i)).vista j = w.vista j := by
    intro j
    unfold vista
    rw [hpendentes]
    rfl
  refine ⟨h.denso, fun j => ?_, ?_, fun j => ?_, fun j => ?_, h.confirmados, fun j ex' hex' => ?_⟩
  · rw [hvista]
    exact h.densas j
  · rw [hpendentes]
    exact h.exclusivas
  · rw [hvista]
    exact h.unicos j
  · rw [hvista]
    exact h.legitimos j
  · rw [hvista]
    change Function.update w.emCurso i _ j = some ex' at hex'
    by_cases hj : j = i
    · subst hj
      rw [Function.update_self] at hex'
      rw [← Option.some.inj hex']
      exact h.avancada hex hresta hresposta (List.Subset.refl _)
    · rw [Function.update_of_ne hj] at hex'
      exact h.execucoes j ex' hex'

/-- What is known of an event when it is inserted. -/
theorem inserido (h : w.Coerente) {ex : Execucao} {e : Evento}
    {k : Resposta (.insert e) → Programa Desfecho} (hex : w.emCurso i = some ex)
    (hresta : ex.resta = .call (.insert e) k) (livre : ∀ e' ∈ w.vista i, ¬Colide e' e) :
    Denso (w.vista i ++ [e]) ∧ Legitimo w.pedidos (w.vista i ++ [e]) e := by
  have hcoerente := h.execucoes i ex hex
  have hobeys := (@portao_obeys _ []).path hcoerente.caminho
  rw [hresta] at hobeys
  have hautoriza : Autoriza ex.feito ex.pedido e := by
    cases hobeys with
    | call hc _ => exact hc e rfl
  have hversoes : ∀ e' ∈ w.vista i, e'.subjectKey = e.subjectKey → e'.toVersion ≠ e.toVersion :=
    fun e' he' hkey hversion => livre e' he' (.inr ⟨hkey, hversion⟩)
  have hdenso : Denso (w.vista i ++ [e]) := by
    refine (h.densas i).snoc ?_ hautoriza.toVersion hversoes
    obtain ⟨atual, hmem, hversion⟩ := hautoriza.leu
    obtain ⟨hsome, -⟩ := (hcoerente.verdade _ hmem).current _ _ rfl
    cases atual with
    | none => exact .inl hversion.symm
    | some m =>
      obtain ⟨hm, hkey⟩ := hsome m rfl
      exact .inr ⟨m, hm, hkey, hversion⟩
  have hpasso : e.fromVersion = e.toVersion - 1 := by
    have hto := hautoriza.toVersion
    omega
  refine ⟨hdenso, hpasso, ?_, ?_⟩
  · intro hkind
    generalize hpedido : ex.pedido = pedido at hautoriza
    cases hautoriza with
    | @promocao p approval aprova leu =>
      exact ⟨p, approval, hpedido ▸ hcoerente.pedido, aprova, rfl⟩
    | reversao aprova alvo leu => cases hkind
  · intro hkind
    generalize hpedido : ex.pedido = pedido at hautoriza
    cases hautoriza with
    | promocao aprova leu => cases hkind
    | @reversao r approval target aprova alvo leu =>
      obtain ⟨htarget, -⟩ := (hcoerente.verdade _ alvo).get _ _ rfl
      refine ⟨r, approval, target, hpedido ▸ hcoerente.pedido, aprova, rfl,
        List.mem_append_left _ htarget, ?_⟩
      have hsubject : target.subjectKey = r.subjectKey := by
        have hvinculo := aprova.vinculo
        unfold Reversao.vinculada at hvinculo
        simp only [Bool.and_eq_true, decide_eq_true_eq] at hvinculo
        exact hvinculo.1.1.1
      obtain ⟨n, hn⟩ := h.densas i r.subjectKey
      obtain ⟨m, hm⟩ := hdenso r.subjectKey
      have hnext : (r.evento approval target).toVersion = (n : ℤ) + 1 := by
        have hkey : (r.evento approval target).subjectKey = r.subjectKey := rfl
        rw [versoes_append, versoes_singleton, if_pos hkey, hn] at hm
        exact head_of_append_eq_numeradas hm
      have hbound : target.toVersion ∈ numeradas n := by
        rw [← hn, mem_versoes]
        exact ⟨target, htarget, hsubject, rfl⟩
      have hle := (mem_numeradas.mp hbound).2
      omega

/-- A successful insertion. -/
theorem anexada (h : w.Coerente) {ex : Execucao} {e : Evento}
    {k : Resposta (.insert e) → Programa Desfecho} (hex : w.emCurso i = some ex)
    (hresta : ex.resta = .call (.insert e) k) (livre : ∀ e' ∈ w.vista i, ¬Colide e' e)
    (esperou : ∀ j, j ≠ i → ∀ e' ∈ w.pendentes j, ¬Colide e' e) :
    (w.respondido i ex (.insert e) Insercao.feita (k Insercao.feita)
      (w.pendentes i ++ [e])).Coerente := by
  obtain ⟨hdenso, hlegitimo⟩ := h.inserido hex hresta livre
  have hself : (w.respondido i ex (.insert e) Insercao.feita (k Insercao.feita)
      (w.pendentes i ++ [e])).vista i = w.vista i ++ [e] := by
    show w.log ++ Function.update w.pendentes i _ i = w.log ++ w.pendentes i ++ [e]
    rw [Function.update_self, List.append_assoc]
  have hother : ∀ j, j ≠ i → (w.respondido i ex (.insert e) Insercao.feita (k Insercao.feita)
      (w.pendentes i ++ [e])).vista j = w.vista j := by
    intro j hj
    show w.log ++ Function.update w.pendentes i _ j = w.log ++ w.pendentes j
    rw [Function.update_of_ne hj]
  have hsub : w.vista i ⊆ w.vista i ++ [e] := List.subset_append_left _ _
  refine ⟨h.denso, fun j => ?_, ?_, fun j => ?_, fun j => ?_, h.confirmados, fun j ex' hex' => ?_⟩
  · by_cases hj : j = i
    · rw [hj, hself]
      exact hdenso
    · rw [hother j hj]
      exact h.densas j
  · intro j j' hne a ha b hb
    change a ∈ Function.update w.pendentes i _ j at ha
    change b ∈ Function.update w.pendentes i _ j' at hb
    by_cases hj : j = i
    · have hj' : j' ≠ i := fun heq => hne (hj.trans heq.symm)
      rw [hj, Function.update_self] at ha
      rw [Function.update_of_ne hj'] at hb
      rcases List.mem_append.mp ha with hold | hnew
      · exact h.exclusivas i j' (Ne.symm hj') a hold b hb
      · rw [List.mem_singleton.mp hnew]
        intro hcollide
        refine esperou j' hj' b hb ?_
        rcases hcollide with hid | ⟨hkey, hversion⟩
        · exact .inl hid.symm
        · exact .inr ⟨hkey.symm, hversion.symm⟩
    · rw [Function.update_of_ne hj] at ha
      by_cases hj' : j' = i
      · rw [hj', Function.update_self] at hb
        rcases List.mem_append.mp hb with hold | hnew
        · exact h.exclusivas j i hj a ha b hold
        · rw [List.mem_singleton.mp hnew]
          exact esperou j hj a ha
      · rw [Function.update_of_ne hj'] at hb
        exact h.exclusivas j j' hne a ha b hb
  · by_cases hj : j = i
    · rw [hj, hself]
      intro a ha b hb hid
      rcases List.mem_append.mp ha with hold | hnew
      · rcases List.mem_append.mp hb with hold' | hnew'
        · exact h.unicos i a hold b hold' hid
        · rw [List.mem_singleton.mp hnew'] at hid
          exact absurd (.inl hid) (livre a hold)
      · rw [List.mem_singleton.mp hnew] at hid ⊢
        rcases List.mem_append.mp hb with hold' | hnew'
        · exact absurd (.inl hid.symm) (livre b hold')
        · exact (List.mem_singleton.mp hnew').symm
    · rw [hother j hj]
      exact h.unicos j
  · by_cases hj : j = i
    · rw [hj, hself]
      intro a ha
      rcases List.mem_append.mp ha with hold | hnew
      · exact (h.legitimos i a hold).mono (List.Subset.refl _) hsub
      · rw [List.mem_singleton.mp hnew]
        exact hlegitimo
    · rw [hother j hj]
      exact h.legitimos j
  · change Function.update w.emCurso i _ j = some ex' at hex'
    by_cases hj : j = i
    · rw [hj, hself]
      rw [hj, Function.update_self] at hex'
      rw [← Option.some.inj hex']
      exact h.avancada hex hresta (.feita livre esperou) hsub
    · rw [hother j hj]
      rw [Function.update_of_ne hj] at hex'
      exact h.execucoes j ex' hex'

theorem confirmado (h : w.Coerente) : (w.confirmado i).Coerente := by
  have hself : (w.confirmado i).vista i = w.vista i := by
    show w.log ++ w.pendentes i ++ Function.update w.pendentes i [] i = w.log ++ w.pendentes i
    rw [Function.update_self, List.append_nil]
  have hother : ∀ j, j ≠ i →
      (w.confirmado i).vista j = w.log ++ w.pendentes i ++ w.pendentes j := by
    intro j hj
    show w.log ++ w.pendentes i ++ Function.update w.pendentes i [] j = _
    rw [Function.update_of_ne hj]
  have hsub : ∀ j, w.vista j ⊆ w.log ++ w.pendentes i ++ w.pendentes j := by
    intro j a ha
    rcases List.mem_append.mp ha with hlog | hpendente
    · exact List.mem_append_left _ (List.mem_append_left _ hlog)
    · exact List.mem_append_right _ hpendente
  have hleft : ∀ j, w.vista i ⊆ w.log ++ w.pendentes i ++ w.pendentes j :=
    fun j => List.subset_append_left _ _
  have hlogs : w.log ⊆ w.log ++ w.pendentes i := List.subset_append_left _ _
  refine ⟨h.densas i, fun j => ?_, ?_, fun j => ?_, fun j => ?_, h.legitimos i, fun j ex hex => ?_⟩
  · by_cases hj : j = i
    · rw [hj, hself]
      exact h.densas i
    · rw [hother j hj]
      exact h.denso.append (h.densas i) (h.densas j) (h.exclusivas i j (Ne.symm hj))
  · intro j j' hne a ha b hb
    change a ∈ Function.update w.pendentes i _ j at ha
    change b ∈ Function.update w.pendentes i _ j' at hb
    by_cases hj : j = i
    · rw [hj, Function.update_self] at ha
      cases ha
    · by_cases hj' : j' = i
      · rw [hj', Function.update_self] at hb
        cases hb
      · rw [Function.update_of_ne hj] at ha
        rw [Function.update_of_ne hj'] at hb
        exact h.exclusivas j j' hne a ha b hb
  · by_cases hj : j = i
    · rw [hj, hself]
      exact h.unicos i
    · rw [hother j hj]
      intro a ha b hb hid
      rcases List.mem_append.mp ha with hfirst | hlast
      · rcases List.mem_append.mp hb with hfirst' | hlast'
        · exact h.unicos i a hfirst b hfirst' hid
        · rcases List.mem_append.mp hfirst with hlog | hpendente
          · exact h.unicos j a (List.mem_append_left _ hlog) b (List.mem_append_right _ hlast') hid
          · exact absurd (.inl hid) (h.exclusivas i j (Ne.symm hj) a hpendente b hlast')
      · rcases List.mem_append.mp hb with hfirst' | hlast'
        · rcases List.mem_append.mp hfirst' with hlog | hpendente
          · exact h.unicos j a (List.mem_append_right _ hlast) b (List.mem_append_left _ hlog) hid
          · exact absurd (.inl hid) (h.exclusivas j i hj a hlast b hpendente)
        · exact h.unicos j a (List.mem_append_right _ hlast) b (List.mem_append_right _ hlast') hid
  · by_cases hj : j = i
    · rw [hj, hself]
      exact h.legitimos i
    · rw [hother j hj]
      intro a ha
      rcases List.mem_append.mp ha with hfirst | hlast
      · exact (h.legitimos i a hfirst).mono (List.Subset.refl _) (hleft j)
      · exact (h.legitimos j a (List.mem_append_right _ hlast)).mono (List.Subset.refl _) (hsub j)
  · have hcoerente := h.execucoes j ex hex
    by_cases hj : j = i
    · rw [hj, hself]
      rw [hj] at hcoerente
      exact hcoerente.mono (List.Subset.refl _) hlogs (List.Subset.refl _)
    · rw [hother j hj]
      exact hcoerente.mono (List.Subset.refl _) hlogs (hsub j)

theorem abortado (h : w.Coerente) : (w.abortado i).Coerente := by
  have hself : (w.abortado i).vista i = w.log := by
    show w.log ++ Function.update w.pendentes i [] i = w.log
    rw [Function.update_self, List.append_nil]
  have hother : ∀ j, j ≠ i → (w.abortado i).vista j = w.vista j := by
    intro j hj
    show w.log ++ Function.update w.pendentes i [] j = w.log ++ w.pendentes j
    rw [Function.update_of_ne hj]
  refine ⟨h.denso, fun j => ?_, ?_, fun j => ?_, fun j => ?_, h.confirmados, fun j ex hex => ?_⟩
  · by_cases hj : j = i
    · rw [hj, hself]
      exact h.denso
    · rw [hother j hj]
      exact h.densas j
  · intro j j' hne a ha b hb
    change a ∈ Function.update w.pendentes i _ j at ha
    change b ∈ Function.update w.pendentes i _ j' at hb
    by_cases hj : j = i
    · rw [hj, Function.update_self] at ha
      cases ha
    · by_cases hj' : j' = i
      · rw [hj', Function.update_self] at hb
        cases hb
      · rw [Function.update_of_ne hj] at ha
        rw [Function.update_of_ne hj'] at hb
        exact h.exclusivas j j' hne a ha b hb
  · by_cases hj : j = i
    · rw [hj, hself]
      intro a ha b hb hid
      exact h.unicos i a (List.mem_append_left _ ha) b (List.mem_append_left _ hb) hid
    · rw [hother j hj]
      exact h.unicos j
  · by_cases hj : j = i
    · rw [hj, hself]
      exact h.confirmados
    · rw [hother j hj]
      exact h.legitimos j
  · change Function.update w.emCurso i none j = some ex at hex
    by_cases hj : j = i
    · rw [hj, Function.update_self] at hex
      cases hex
    · rw [Function.update_of_ne hj] at hex
      rw [hother j hj]
      exact h.execucoes j ex hex

theorem passo {w' : Mundo} (h : w.Coerente) (hpasso : Passo w w') : w'.Coerente := by
  cases hpasso with
  | iniciar livre => exact h.iniciado
  | responder emCurso resta resposta =>
    cases resposta with
    | feita livre esperou => exact h.anexada emCurso resta livre esperou
    | get => exact h.lida emCurso resta .get
    | current => exact h.lida emCurso resta .current
    | getFalha => exact h.lida emCurso resta .getFalha
    | currentFalha => exact h.lida emCurso resta .currentFalha
    | identidade there => exact h.lida emCurso resta (.identidade there)
    | versao there => exact h.lida emCurso resta (.versao there)
    | falha => exact h.lida emCurso resta .falha
  | confirmar livre => exact h.confirmado
  | abortar => exact h.abortado

theorem passos {w' : Mundo} (h : w.Coerente) (hpassos : Passos w w') : w'.Coerente := by
  induction hpassos with
  | refl => exact h
  | tail _ hpasso ih => exact ih.passo hpasso

end Mundo.Coerente

/-- Committed events stay where they are. -/
theorem log_prefix {w w' : Mundo} (h : Passos w w') : w.log <+: w'.log := by
  induction h with
  | refl => exact List.prefix_refl _
  | tail _ hpasso ih =>
    refine ih.trans ?_
    cases hpasso with
    | iniciar livre => exact List.prefix_refl _
    | responder emCurso resta resposta => exact List.prefix_refl _
    | confirmar livre => exact List.prefix_append _ _
    | abortar => exact List.prefix_refl _

end PiaOs.Predictive
