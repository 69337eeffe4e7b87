import Mathlib.Data.List.Infix
import Mathlib.Logic.Relation
import Mathlib.Logic.Function.Basic
import PiaOs.Predictive.Reconfiguration

/-!
# The log of reconfigurations

Any number of sessions run gates over one table. A session sees the committed events and its
own, an insertion waits for the other sessions that hold its keys, and a commit makes the
events of a session part of the log.
-/

namespace PiaOs.Predictive

open Support Memory Piap

/-! ## Calls of the gates -/

inductive Pedido
  | promocao (p : Promocao)
  | reversao (r : Reversao)

namespace Pedido

def portao : Pedido → Programa Desfecho
  | .promocao p => predictiveReconfigurationGate p
  | .reversao r => predictiveRollbackGate r

def eventId : Pedido → Referencia
  | .promocao p => p.eventId
  | .reversao r => r.eventId

def subjectKey : Pedido → String
  | .promocao p => p.candidate.subjectKey
  | .reversao r => r.subjectKey

def expectedVersion : Pedido → ℤ
  | .promocao p => p.candidate.expectedVersion
  | .reversao r => r.expectedVersion

end Pedido

/-! ## Sessions -/

/-- A gate on its way: what it was asked, the log when it began, the calls that were answered
and what is left of it. -/
structure Execucao where
  pedido : Pedido
  inicio : List Evento
  feito : List (Answered Chamada Resposta)
  resta : Programa Desfecho

/-- The committed events, the events and the gate of each session, and the calls so far. -/
structure Mundo where
  log : List Evento
  pendentes : ℕ → List Evento
  emCurso : ℕ → Option Execucao
  pedidos : List Pedido

namespace Mundo

def vazio : Mundo where
  log := []
  pendentes _ := []
  emCurso _ := none
  pedidos := []

/-- What a session sees. -/
def vista (w : Mundo) (i : ℕ) : List Evento := w.log ++ w.pendentes i

/-- No gate of the session waits for an answer. -/
def Ocioso (w : Mundo) (i : ℕ) : Prop :=
  ∀ ex, w.emCurso i = some ex → ∃ r, ex.resta = .done r

end Mundo

/-- The last event of a subject, by version. -/
def corrente (subjectKey : String) : List Evento → Option Evento
  | [] => none
  | e :: rest =>
    match corrente subjectKey rest with
    | none => if e.subjectKey = subjectKey then some e else none
    | some m => if e.subjectKey = subjectKey ∧ m.toVersion < e.toVersion then some e else some m

/-- Two events with one identifier, or with one version of one subject. -/
def Colide (a b : Evento) : Prop :=
  a.eventId = b.eventId ∨ (a.subjectKey = b.subjectKey ∧ a.toVersion = b.toVersion)

/-- The answers that a statement may get, with the events of the session afterwards. An
insertion succeeds only beside no event with its keys, committed or not. -/
inductive Responde (w : Mundo) (i : ℕ) : (c : Chamada) → Resposta c → List Evento → Prop
  | get {id : Referencia} :
    Responde w i (.get id) (some ((w.vista i).find? fun e => e.eventId = id)) (w.pendentes i)
  | current {subjectKey : String} :
    Responde w i (.current subjectKey) (some (corrente subjectKey (w.vista i))) (w.pendentes i)
  | getFalha {id : Referencia} : Responde w i (.get id) none (w.pendentes i)
  | currentFalha {subjectKey : String} :
    Responde w i (.current subjectKey) none (w.pendentes i)
  | feita {e : Evento} (livre : ∀ e' ∈ w.vista i, ¬Colide e' e)
      (esperou : ∀ j, j ≠ i → ∀ e' ∈ w.pendentes j, ¬Colide e' e) :
    Responde w i (.insert e) Insercao.feita (w.pendentes i ++ [e])
  | identidade {e : Evento} (h : ∃ e' ∈ w.vista i, e'.eventId = e.eventId) :
    Responde w i (.insert e) Insercao.identidade (w.pendentes i)
  | versao {e : Evento}
      (h : ∃ e' ∈ w.vista i, e'.subjectKey = e.subjectKey ∧ e'.toVersion = e.toVersion) :
    Responde w i (.insert e) Insercao.versao (w.pendentes i)
  | falha {e : Evento} : Responde w i (.insert e) Insercao.falha (w.pendentes i)

namespace Mundo

def iniciado (w : Mundo) (i : ℕ) (pedido : Pedido) : Mundo :=
  { w with
    emCurso := Function.update w.emCurso i (some ⟨pedido, w.log, [], pedido.portao⟩)
    pedidos := w.pedidos ++ [pedido] }

def respondido (w : Mundo) (i : ℕ) (ex : Execucao) (c : Chamada) (a : Resposta c)
    (resta : Programa Desfecho) (pendentes : List Evento) : Mundo :=
  { w with
    pendentes := Function.update w.pendentes i pendentes
    emCurso := Function.update w.emCurso i
      (some { ex with feito := ex.feito ++ [⟨c, a⟩], resta }) }

def confirmado (w : Mundo) (i : ℕ) : Mundo :=
  { w with
    log := w.log ++ w.pendentes i
    pendentes := Function.update w.pendentes i [] }

def abortado (w : Mundo) (i : ℕ) : Mundo :=
  { w with
    pendentes := Function.update w.pendentes i []
    emCurso := Function.update w.emCurso i none }

end Mundo

inductive Passo (w : Mundo) : Mundo → Prop
  | iniciar {i : ℕ} {pedido : Pedido} (livre : w.Ocioso i) : Passo w (w.iniciado i pedido)
  | responder {i : ℕ} {ex : Execucao} {c : Chamada} {k : Resposta c → Programa Desfecho}
      {a : Resposta c} {pendentes : List Evento} (emCurso : w.emCurso i = some ex)
      (resta : ex.resta = .call c k) (resposta : Responde w i c a pendentes) :
    Passo w (w.respondido i ex c a (k a) pendentes)
  | confirmar {i : ℕ} (livre : w.Ocioso i) : Passo w (w.confirmado i)
  | abortar {i : ℕ} : Passo w (w.abortado i)

/-- A run of any length. -/
abbrev Passos : Mundo → Mundo → Prop := Relation.ReflTransGen Passo

/-! ## The last event of a subject -/

theorem corrente_eq_none {subjectKey : String} {log : List Evento} :
    corrente subjectKey log = none ↔ ∀ e ∈ log, e.subjectKey ≠ subjectKey := by
  induction log with
  | nil => simp [corrente]
  | cons e rest ih =>
    unfold corrente
    cases hrest : corrente subjectKey rest with
    | none =>
      have hothers := ih.mp hrest
      by_cases hkey : e.subjectKey = subjectKey
      · simp [hkey]
      · simp only [if_neg hkey, List.forall_mem_cons, true_iff]
        exact ⟨hkey, hothers⟩
    | some m =>
      have hsome : ¬∀ e ∈ rest, e.subjectKey ≠ subjectKey := by
        rw [← ih, hrest]
        simp
      simp only [List.forall_mem_cons, hsome, and_false, iff_false]
      split <;> simp

/-- It is one of the events of the subject, and none has a later version. -/
theorem corrente_eq_some {subjectKey : String} {log : List Evento} {m : Evento}
    (h : corrente subjectKey log = some m) : m ∈ log ∧ m.subjectKey = subjectKey ∧
      ∀ e ∈ log, e.subjectKey = subjectKey → e.toVersion ≤ m.toVersion := by
  induction log generalizing m with
  | nil => cases h
  | cons e rest ih =>
    unfold corrente at h
    cases hrest : corrente subjectKey rest with
    | none =>
      have hothers := corrente_eq_none.mp hrest
      simp only [hrest] at h
      by_cases hkey : e.subjectKey = subjectKey
      · rw [if_pos hkey] at h
        have heq : e = m := Option.some.inj h
        subst heq
        refine ⟨List.mem_cons_self, hkey, ?_⟩
        intro e' he' hkey'
        rcases List.mem_cons.mp he' with rfl | hlast
        · exact le_refl _
        · exact absurd hkey' (hothers e' hlast)
      · rw [if_neg hkey] at h
        cases h
    | some m' =>
      obtain ⟨hmem, hkey', hmax⟩ := ih hrest
      simp only [hrest] at h
      split at h
      case isTrue hlater =>
        have heq : e = m := Option.some.inj h
        subst heq
        refine ⟨List.mem_cons_self, hlater.1, ?_⟩
        intro e' he' hsubject
        rcases List.mem_cons.mp he' with rfl | hlast
        · exact le_refl _
        · have hle := hmax e' hlast hsubject
          omega
      case isFalse hearlier =>
        have heq : m' = m := Option.some.inj h
        subst heq
        refine ⟨List.mem_cons_of_mem _ hmem, hkey', ?_⟩
        intro e' he' hsubject
        rcases List.mem_cons.mp he' with rfl | hlast
        · by_contra hlt
          exact hearlier ⟨hsubject, by omega⟩
        · exact hmax e' hlast hsubject

/-- The current version bounds those of the subject. -/
theorem le_versaoDe_corrente {subjectKey : String} {log : List Evento} {e : Evento}
    (he : e ∈ log) (hkey : e.subjectKey = subjectKey) :
    e.toVersion ≤ versaoDe (corrente subjectKey log) := by
  cases h : corrente subjectKey log with
  | none => exact absurd hkey (corrente_eq_none.mp h e he)
  | some m => exact (corrente_eq_some h).2.2 e he hkey

/-! ## Dense versions -/

/-- The versions of a subject, in the order of the log. -/
def versoes (subjectKey : String) (log : List Evento) : List ℤ :=
  (log.filter fun e => e.subjectKey = subjectKey).map (·.toVersion)

/-- `1, …, n`. -/
def numeradas (n : ℕ) : List ℤ := (List.range n).map fun (m : ℕ) => (m : ℤ) + 1

/-- The versions of every subject count from one. -/
def Denso (log : List Evento) : Prop := ∀ subjectKey, ∃ n, versoes subjectKey log = numeradas n

@[simp] theorem length_numeradas {n : ℕ} : (numeradas n).length = n := by simp [numeradas]

theorem mem_numeradas {n : ℕ} {v : ℤ} : v ∈ numeradas n ↔ 1 ≤ v ∧ v ≤ n := by
  unfold numeradas
  rw [List.mem_map]
  constructor
  · rintro ⟨m, hm, rfl⟩
    have hlt := List.mem_range.mp hm
    omega
  · rintro ⟨hpos, hle⟩
    refine ⟨(v - 1).toNat, List.mem_range.mpr ?_, ?_⟩
    · omega
    · omega

theorem numeradas_succ {n : ℕ} : numeradas (n + 1) = numeradas n ++ [(n : ℤ) + 1] := by
  simp [numeradas, List.range_succ]

/-- What is numbered on after a numbered list begins with the next number. -/
theorem head_of_append_eq_numeradas {n m : ℕ} {v : ℤ} {rest : List ℤ}
    (h : numeradas n ++ v :: rest = numeradas m) : v = (n : ℤ) + 1 := by
  have hget := congrArg (fun l : List ℤ => l[n]?) h
  have hlen := congrArg List.length h
  simp only [List.length_append, length_numeradas, List.length_cons] at hlen
  have hlt : n < m := by omega
  simp [numeradas, hlt] at hget
  exact hget

@[simp] theorem versoes_append {subjectKey : String} {a b : List Evento} :
    versoes subjectKey (a ++ b) = versoes subjectKey a ++ versoes subjectKey b := by
  simp [versoes]

theorem mem_versoes {subjectKey : String} {log : List Evento} {v : ℤ} :
    v ∈ versoes subjectKey log ↔ ∃ e ∈ log, e.subjectKey = subjectKey ∧ e.toVersion = v := by
  simp [versoes, and_assoc]

theorem versoes_singleton {subjectKey : String} {e : Evento} :
    versoes subjectKey [e] = if e.subjectKey = subjectKey then [e.toVersion] else [] := by
  by_cases hkey : e.subjectKey = subjectKey <;> simp [versoes, hkey]

/-- An event that follows the current version, and whose version is free, takes the next
number. -/
theorem Denso.snoc {log : List Evento} {e : Evento} (h : Denso log)
    (hfrom : e.fromVersion = 0 ∨
      ∃ m ∈ log, m.subjectKey = e.subjectKey ∧ m.toVersion = e.fromVersion)
    (hto : e.toVersion = e.fromVersion + 1)
    (hfree : ∀ e' ∈ log, e'.subjectKey = e.subjectKey → e'.toVersion ≠ e.toVersion) :
    Denso (log ++ [e]) := by
  intro subjectKey
  obtain ⟨n, hn⟩ := h subjectKey
  rw [versoes_append, versoes_singleton, hn]
  by_cases hkey : e.subjectKey = subjectKey
  · rw [if_pos hkey]
    have hbound : 0 ≤ e.fromVersion ∧ e.fromVersion ≤ n := by
      obtain hzero | ⟨m, hm, hsame, hversion⟩ := hfrom
      · omega
      · have hmem : e.fromVersion ∈ numeradas n := by
          rw [← hn, mem_versoes]
          exact ⟨m, hm, hsame.trans hkey, hversion⟩
        have hrange := mem_numeradas.mp hmem
        omega
    have hnew : e.toVersion ∉ numeradas n := by
      rw [← hn, mem_versoes]
      rintro ⟨e', he', hsame, hversion⟩
      exact hfree e' he' (hsame.trans hkey.symm) hversion
    rw [mem_numeradas] at hnew
    have hnext : e.toVersion = (n : ℤ) + 1 := by omega
    exact ⟨n + 1, by rw [numeradas_succ, hnext]⟩
  · rw [if_neg hkey, List.append_nil]
    exact ⟨n, rfl⟩

/-- The events of two sessions that collide nowhere go in one after the other. -/
theorem Denso.append {log a b : List Evento} (hlog : Denso log) (ha : Denso (log ++ a))
    (hb : Denso (log ++ b)) (hfree : ∀ e ∈ a, ∀ e' ∈ b, ¬Colide e e') :
    Denso (log ++ a ++ b) := by
  intro subjectKey
  obtain ⟨n, hn⟩ := hlog subjectKey
  obtain ⟨na, hna⟩ := ha subjectKey
  obtain ⟨nb, hnb⟩ := hb subjectKey
  rw [versoes_append, hn] at hna hnb
  cases hva : versoes subjectKey a with
  | nil =>
    refine ⟨nb, ?_⟩
    rw [versoes_append, versoes_append, hn, hva, List.append_nil]
    exact hnb
  | cons v rest =>
    cases hvb : versoes subjectKey b with
    | nil =>
      refine ⟨na, ?_⟩
      rw [versoes_append, versoes_append, hn, hvb, List.append_nil]
      exact hna
    | cons v' rest' =>
      rw [hva] at hna
      rw [hvb] at hnb
      have hv := head_of_append_eq_numeradas hna
      have hv' := head_of_append_eq_numeradas hnb
      have hmem : v ∈ versoes subjectKey a := by
        rw [hva]
        exact List.mem_cons_self
      have hmem' : v' ∈ versoes subjectKey b := by
        rw [hvb]
        exact List.mem_cons_self
      obtain ⟨e, he, hkey, hversion⟩ := mem_versoes.mp hmem
      obtain ⟨e', he', hkey', hversion'⟩ := mem_versoes.mp hmem'
      refine absurd (.inr ⟨hkey.trans hkey'.symm, ?_⟩) (hfree e he e' he')
      omega

end PiaOs.Predictive
