import PiaOs.Access.Database

/-!
# Rows and counters

What statements do to the principals and to the counters. A row of a bucket counts
the increments that were committed for it; what a transaction has written and not
yet committed is counted on top.
-/

namespace PiaOs.Access

open Support

/-- What no update of a principal changes. -/
def ProgrammaticServicePrincipal.fixo (linha : ProgrammaticServicePrincipal) :
    ProgrammaticServicePrincipal := { linha with revokedAt := none }

namespace Escrita

def linha? : Escrita → Option ProgrammaticServicePrincipal
  | .principal linha => some linha
  | _ => none

def chave? : Escrita → Option QuotaKey
  | .incremento key => some key
  | _ => none

end Escrita

namespace Banco

variable {b : Banco} {i j : Nat} {escrita : Escrita} {key : QuotaKey} {agora : Instant}

/-- The increments that were committed for a bucket. -/
def contagem (b : Banco) (key : QuotaKey) : Nat := b.incrementos.countP (·.2 == key)

/-- The increments of open transactions. -/
def reservas (b : Banco) (key : QuotaKey) : Nat := b.pendentes.countP (·.2 == .incremento key)

/-- The rows of open transactions. -/
def linhasPendentes (b : Banco) : List ProgrammaticServicePrincipal :=
  b.pendentes.filterMap (·.2.linha?)

/-- Each bucket holds the number of its increments, and there is none without any. -/
def Contado (b : Banco) : Prop :=
  ∀ key, b.used key = if b.contagem key = 0 then none else some (b.contagem key)

/-! ## A write by itself -/

theorem aplicada_fixo (b : Banco) (i : Nat) (escrita : Escrita) :
    (b.aplicada i escrita).principais.map ProgrammaticServicePrincipal.fixo =
      b.principais.map ProgrammaticServicePrincipal.fixo ++
        escrita.linha?.toList.map ProgrammaticServicePrincipal.fixo := by
  cases escrita with
  | principal linha => simp [aplicada, Escrita.linha?]
  | incremento key => simp [aplicada, Escrita.linha?]
  | revogacao id moment =>
    simp only [aplicada, Escrita.linha?, List.map_map, Option.toList_none, List.map_nil,
      List.append_nil]
    refine List.map_congr_left fun linha _ => ?_
    by_cases hid : linha.id = id <;> simp [hid, ProgrammaticServicePrincipal.fixo]

theorem aplicada_incrementos (b : Banco) (i : Nat) (escrita : Escrita) :
    (b.aplicada i escrita).incrementos =
      b.incrementos ++ escrita.chave?.toList.map fun key => (i, key) := by
  cases escrita <;> simp [aplicada, Escrita.chave?]

theorem Contado.aplicada (h : b.Contado) (i : Nat) (escrita : Escrita) :
    (b.aplicada i escrita).Contado := by
  cases escrita with
  | principal linha => exact h
  | revogacao id moment => exact h
  | incremento key =>
    intro key'
    have hcount : (b.aplicada i (.incremento key)).contagem key' =
        b.contagem key' + if key = key' then 1 else 0 := by
      simp [contagem, Banco.aplicada, List.countP_append, List.countP_singleton]
    have hused : (b.used key).getD 0 = b.contagem key := by
      rw [h key]
      split <;> simp_all
    rw [hcount]
    simp only [Banco.aplicada]
    by_cases hkey : key' = key
    · subst hkey
      simp [hused]
    · have hne : ¬key = key' := fun heq => hkey heq.symm
      simpa [hkey, hne] using h key'

/-! ## The writes of a transaction -/

private theorem escritas_fixo (escritas : List Escrita) (b : Banco) (i : Nat) :
    (escritas.foldl (fun b escrita => b.aplicada i escrita) b).principais.map
        ProgrammaticServicePrincipal.fixo =
      b.principais.map ProgrammaticServicePrincipal.fixo ++
        (escritas.filterMap Escrita.linha?).map ProgrammaticServicePrincipal.fixo := by
  induction escritas generalizing b with
  | nil => simp
  | cons escrita escritas ih =>
    rw [List.foldl_cons, ih, aplicada_fixo, List.append_assoc, ← List.map_append]
    congr 2
    cases escrita <;> simp [Escrita.linha?, List.filterMap_cons]

private theorem escritas_incrementos (escritas : List Escrita) (b : Banco) (i : Nat) :
    (escritas.foldl (fun b escrita => b.aplicada i escrita) b).incrementos =
      b.incrementos ++ (escritas.filterMap Escrita.chave?).map fun key => (i, key) := by
  induction escritas generalizing b with
  | nil => simp
  | cons escrita escritas ih =>
    rw [List.foldl_cons, ih, aplicada_incrementos, List.append_assoc, ← List.map_append]
    congr 2
    cases escrita <;> simp [Escrita.chave?, List.filterMap_cons]

private theorem escritas_quietas (escritas : List Escrita) (b : Banco) (i : Nat) :
    (escritas.foldl (fun b escrita => b.aplicada i escrita) b).pendentes = b.pendentes ∧
      (escritas.foldl (fun b escrita => b.aplicada i escrita) b).inicio = b.inicio := by
  induction escritas generalizing b with
  | nil => exact ⟨rfl, rfl⟩
  | cons escrita escritas ih =>
    rw [List.foldl_cons, (ih _).1, (ih _).2]
    cases escrita <;> exact ⟨rfl, rfl⟩

private theorem escritas_contado (escritas : List Escrita) (h : b.Contado) (i : Nat) :
    (escritas.foldl (fun b escrita => b.aplicada i escrita) b).Contado := by
  induction escritas generalizing b with
  | nil => exact h
  | cons escrita escritas ih => exact ih (h.aplicada i escrita)

theorem vista_fixo : (b.vista i).principais.map ProgrammaticServicePrincipal.fixo =
    b.principais.map ProgrammaticServicePrincipal.fixo ++
      ((b.escritasDe i).filterMap Escrita.linha?).map ProgrammaticServicePrincipal.fixo :=
  escritas_fixo _ b i

theorem vista_incrementos : (b.vista i).incrementos =
    b.incrementos ++ ((b.escritasDe i).filterMap Escrita.chave?).map fun key => (i, key) :=
  escritas_incrementos _ b i

theorem Contado.vista (h : b.Contado) (i : Nat) : (b.vista i).Contado := escritas_contado _ h i

@[simp] theorem confirmado_pendentes :
    (b.confirmado i).pendentes = b.pendentes.filter (·.1 != i) := by
  have hquiet : (b.vista i).pendentes = b.pendentes := (escritas_quietas _ b i).1
  simp only [confirmado, desfeito, hquiet]

@[simp] theorem confirmado_inicio :
    (b.confirmado i).inicio = fun j => if j = i then none else b.inicio j := by
  have hquiet : (b.vista i).inicio = b.inicio := (escritas_quietas _ b i).2
  simp only [confirmado, desfeito, hquiet]

/-- With no writes of its own a transaction sees the committed rows. -/
theorem vista_eq_self (h : b.escritasDe i = []) : b.vista i = b := by
  rw [vista, h]
  rfl

theorem mem_escritasDe : escrita ∈ b.escritasDe i ↔ (i, escrita) ∈ b.pendentes := by
  simp [escritasDe]

/-! ## Counting -/

/-- The increments of the open transaction of a process. -/
def reservasDe (b : Banco) (i : Nat) (key : QuotaKey) : Nat :=
  (b.escritasDe i).countP (· == .incremento key)

theorem contagem_vista : (b.vista i).contagem key = b.contagem key + b.reservasDe i key := by
  have hkeys (escritas : List Escrita) :
      ((escritas.filterMap Escrita.chave?).map fun key => (i, key)).countP (·.2 == key) =
        escritas.countP (· == .incremento key) := by
    induction escritas with
    | nil => rfl
    | cons escrita escritas ih =>
      cases escrita with
      | incremento key' => simpa [Escrita.chave?, List.filterMap_cons, List.countP_cons] using ih
      | principal linha => simpa [Escrita.chave?, List.filterMap_cons, List.countP_cons] using ih
      | revogacao id moment => simpa [Escrita.chave?, List.filterMap_cons, List.countP_cons] using ih
  rw [contagem, vista_incrementos, List.countP_append, hkeys]
  rfl

theorem reservas_eq : b.reservas key =
    b.reservasDe i key + (b.pendentes.filter (·.1 != i)).countP (·.2 == .incremento key) := by
  have hown : b.reservasDe i key =
      (b.pendentes.filter (·.1 == i)).countP (·.2 == .incremento key) := by
    simp [reservasDe, escritasDe, List.countP_map, Function.comp_def]
  rw [hown, reservas]
  exact List.countP_eq_countP_filter_add _ _ _

/-- Where no other transaction holds the bucket, all that is open is one's own. -/
theorem reservas_of_not_preso (h : b.preso i (· == .incremento key) = false) :
    b.reservas key = b.reservasDe i key := by
  have hothers : (b.pendentes.filter (·.1 != i)).countP (·.2 == .incremento key) = 0 := by
    rw [List.countP_eq_zero]
    intro p hp hkey
    obtain ⟨hmem, hother⟩ := List.mem_filter.mp hp
    rw [preso, List.any_eq_false] at h
    exact h p hmem (by rw [hother, hkey]; rfl)
  rw [@reservas_eq b i key, hothers, Nat.add_zero]

/-- Committed and open increments together. -/
def total (b : Banco) (key : QuotaKey) : Nat := b.contagem key + b.reservas key

theorem total_desfeito : (b.desfeito i).total key ≤ b.total key := by
  have hreservas : (b.desfeito i).reservas key ≤ b.reservas key :=
    (List.filter_sublist (l := b.pendentes)).countP_le
  exact Nat.add_le_add_left hreservas _

theorem total_confirmado : (b.confirmado i).total key = b.total key := by
  have hcount : (b.confirmado i).contagem key = b.contagem key + b.reservasDe i key :=
    contagem_vista
  have hopen : (b.confirmado i).reservas key =
      (b.pendentes.filter (·.1 != i)).countP (·.2 == .incremento key) := by
    rw [reservas, confirmado_pendentes]
  have hsplit := @reservas_eq b i key
  rw [total, total, hcount, hopen]
  omega

theorem total_anotado : (b.anotado i escrita).total key =
    b.total key + if escrita = .incremento key then 1 else 0 := by
  have hopen : (b.anotado i escrita).reservas key =
      b.reservas key + if escrita = .incremento key then 1 else 0 := by
    simp [reservas, anotado, List.countP_append, List.countP_singleton]
  have hcount : (b.anotado i escrita).contagem key = b.contagem key := rfl
  rw [total, total, hcount, hopen, Nat.add_assoc]

/-! ## The rows of the principals -/

/-- The committed rows, up to revocation. -/
def fixas (b : Banco) : List ProgrammaticServicePrincipal :=
  b.principais.map ProgrammaticServicePrincipal.fixo

/-- The rows, committed or not, up to revocation. -/
def todas (b : Banco) : List ProgrammaticServicePrincipal :=
  (b.principais ++ b.linhasPendentes).map ProgrammaticServicePrincipal.fixo

theorem fixas_subset_todas : b.fixas ⊆ b.todas := by
  rw [fixas, todas, List.map_append]
  exact List.subset_append_left _ _

theorem fixas_subset_confirmado : b.fixas ⊆ (b.confirmado i).fixas := by
  have hrows : (b.confirmado i).fixas = _ := vista_fixo
  rw [hrows]
  exact List.subset_append_left _ _

theorem todas_desfeito : ((b.desfeito i).todas).Sublist b.todas :=
  ((List.Sublist.refl _).append (List.filter_sublist.filterMap _)).map _

theorem todas_confirmado : ((b.confirmado i).todas).Perm b.todas := by
  have hrows : (b.confirmado i).principais.map ProgrammaticServicePrincipal.fixo =
      b.principais.map ProgrammaticServicePrincipal.fixo ++
        ((b.pendentes.filter (·.1 == i)).filterMap (·.2.linha?)).map
          ProgrammaticServicePrincipal.fixo := by
    have hown : (b.escritasDe i).filterMap Escrita.linha? =
        (b.pendentes.filter (·.1 == i)).filterMap (·.2.linha?) := by
      rw [escritasDe, List.filterMap_map]
      rfl
    rw [← hown]
    exact vista_fixo
  have hopen : (b.confirmado i).linhasPendentes =
      (b.pendentes.filter (!·.1 == i)).filterMap (·.2.linha?) := by
    rw [linhasPendentes, confirmado_pendentes]
    rfl
  rw [todas, todas, List.map_append, List.map_append, hrows, hopen, List.append_assoc,
    ← List.map_append, ← List.filterMap_append]
  exact ((List.filter_append_perm _ _).filterMap _).map _ |>.append_left _

theorem todas_anotado : (b.anotado i escrita).todas =
    b.todas ++ escrita.linha?.toList.map ProgrammaticServicePrincipal.fixo := by
  have hopen : (b.anotado i escrita).linhasPendentes =
      b.linhasPendentes ++ escrita.linha?.toList := by
    rw [linhasPendentes, linhasPendentes]
    simp only [anotado, List.filterMap_append]
    cases hrow : escrita.linha? <;> simp [hrow]
  have hrows : (b.anotado i escrita).principais = b.principais := rfl
  rw [todas, todas, hrows, hopen, ← List.append_assoc, List.map_append]

/-! ## What a call does -/

/-- A write that a call may leave in the transaction of its process. -/
inductive Anotavel (b : Banco) (i : Nat) : Chamada → Escrita → Prop
  | principal {linha : ProgrammaticServicePrincipal} (haccepted : linhaAceita linha = true)
      (hfree : (b.vista i).principais.any (conflita linha) = false)
      (hunlocked : b.preso i (Escrita.ocupa linha) = false) :
      Anotavel b i (.insertPrincipal linha) (.principal linha)
  | revogacao {id : Uuid} {moment : Instant} :
      Anotavel b i (.setRevoked id moment) (.revogacao id moment)
  | incremento {key : QuotaKey} {quotaLimit quotaWindowSeconds : Int}
      (hunlocked : b.preso i (· == .incremento key) = false)
      (hlimit : ∀ used, (b.vista i).used key = some used → (used : Int) < quotaLimit) :
      Anotavel b i (.consumeQuota key.principalId key.operation quotaLimit quotaWindowSeconds)
        (.incremento key)

variable {c : Chamada} {escolha : Escolha} {a : Resposta c} {b' : Banco}

/-- A call opens the transaction, ends it with or without its writes, or leaves a write. -/
theorem responde_cases (h : b.responde i c escolha = some (a, b')) :
    (∃ agora, b' = b.aberto i agora) ∨ b' = b.desfeito i ∨ (c = .commit ∧ b' = b.confirmado i) ∨
      ∃ agora escrita, Anotavel (b.aberto i agora) i c escrita ∧
        b' = (b.aberto i agora).anotado i escrita := by
  cases c with
  | getByKeyId keyId =>
    cases escolha <;> obtain ⟨-, rfl⟩ := Prod.mk.inj (Option.some.inj h)
    · exact .inl ⟨_, rfl⟩
    · exact .inr (.inl rfl)
    · exact .inr (.inl rfl)
  | databaseNow =>
    cases escolha <;> obtain ⟨-, rfl⟩ := Prod.mk.inj (Option.some.inj h)
    · exact .inl ⟨_, rfl⟩
    · exact .inr (.inl rfl)
    · exact .inr (.inl rfl)
  | insertPrincipal linha =>
    cases escolha with
    | atende agora =>
      change (b.aberto i agora).insere i linha = some (a, b') at h
      unfold insere at h
      split at h
      case isTrue =>
        obtain ⟨-, rfl⟩ := Prod.mk.inj (Option.some.inj h)
        refine .inr (.inl ?_)
        simp only [desfeito, aberto]
        congr 1
        funext j
        by_cases hj : j = i <;> simp [hj]
      case isFalse haccepted =>
        simp only [not_or, Bool.not_eq_false, Bool.not_eq_true] at haccepted
        split at h
        case isTrue => cases h
        case isFalse hunlocked =>
          obtain ⟨-, rfl⟩ := Prod.mk.inj (Option.some.inj h)
          exact .inr (.inr (.inr ⟨agora, _, .principal haccepted.1 haccepted.2
            (Bool.not_eq_true _ ▸ hunlocked), rfl⟩))
    | falha =>
      obtain ⟨-, rfl⟩ := Prod.mk.inj (Option.some.inj h)
      exact .inr (.inl rfl)
    | perde =>
      obtain ⟨-, rfl⟩ := Prod.mk.inj (Option.some.inj h)
      exact .inr (.inl rfl)
  | setRevoked id moment =>
    cases escolha with
    | atende agora =>
      change (b.aberto i agora).revoga i id moment = some (a, b') at h
      unfold revoga at h
      split at h
      case isTrue => cases h
      case isFalse =>
        obtain ⟨-, rfl⟩ := Prod.mk.inj (Option.some.inj h)
        exact .inr (.inr (.inr ⟨agora, _, .revogacao, rfl⟩))
    | falha =>
      obtain ⟨-, rfl⟩ := Prod.mk.inj (Option.some.inj h)
      exact .inr (.inl rfl)
    | perde =>
      obtain ⟨-, rfl⟩ := Prod.mk.inj (Option.some.inj h)
      exact .inr (.inl rfl)
  | consumeQuota principalId operation quotaLimit quotaWindowSeconds =>
    cases escolha with
    | atende agora =>
      change (b.aberto i agora).consome i _ quotaLimit = some (a, b') at h
      unfold consome at h
      split at h
      case isTrue => cases h
      case isFalse hunlocked =>
        rw [Bool.not_eq_true] at hunlocked
        split at h
        case h_1 hnone =>
          obtain ⟨-, rfl⟩ := Prod.mk.inj (Option.some.inj h)
          refine .inr (.inr (.inr ⟨agora, _, .incremento hunlocked fun used hused => ?_, rfl⟩))
          rw [hnone] at hused
          cases hused
        case h_2 used hused =>
          split at h
          case isTrue hlimit =>
            obtain ⟨-, rfl⟩ := Prod.mk.inj (Option.some.inj h)
            refine .inr (.inr (.inr ⟨agora, _, .incremento hunlocked fun used' hused' => ?_, rfl⟩))
            obtain rfl := Option.some.inj (hused.symm.trans hused')
            exact hlimit
          case isFalse =>
            obtain ⟨-, rfl⟩ := Prod.mk.inj (Option.some.inj h)
            exact .inl ⟨agora, rfl⟩
    | falha =>
      obtain ⟨-, rfl⟩ := Prod.mk.inj (Option.some.inj h)
      exact .inr (.inl rfl)
    | perde =>
      obtain ⟨-, rfl⟩ := Prod.mk.inj (Option.some.inj h)
      exact .inr (.inl rfl)
  | commit =>
    cases escolha <;> obtain ⟨-, rfl⟩ := Prod.mk.inj (Option.some.inj h)
    · exact .inr (.inr (.inl ⟨rfl, rfl⟩))
    · exact .inr (.inl rfl)
    · exact .inr (.inr (.inl ⟨rfl, rfl⟩))
  | rollback =>
    cases escolha <;> obtain ⟨-, rfl⟩ := Prod.mk.inj (Option.some.inj h)
    · exact .inr (.inl rfl)
    · exact .inr (.inl rfl)
    · exact .inr (.inl rfl)

/-- Nothing changes for the transactions of other processes. -/
theorem responde_outros (h : b.responde i c escolha = some (a, b')) (hj : j ≠ i) :
    (∀ escrita, (j, escrita) ∈ b'.pendentes ↔ (j, escrita) ∈ b.pendentes) ∧
      b'.inicio j = b.inicio j := by
  rcases responde_cases h with ⟨agora, rfl⟩ | rfl | ⟨-, rfl⟩ | ⟨agora, escrita, -, rfl⟩
  · exact ⟨fun _ => Iff.rfl, by simp [aberto, hj]⟩
  · exact ⟨by simp [desfeito, hj], by simp [desfeito, hj]⟩
  · exact ⟨by simp [hj], by simp [hj]⟩
  · exact ⟨by simp [anotado, aberto, hj], by simp [anotado, aberto, hj]⟩

/-- Committed rows stay, up to revocation. -/
theorem responde_fixas (h : b.responde i c escolha = some (a, b')) : b.fixas ⊆ b'.fixas := by
  rcases responde_cases h with ⟨agora, rfl⟩ | rfl | ⟨-, rfl⟩ | ⟨agora, escrita, -, rfl⟩
  · exact List.Subset.refl _
  · exact List.Subset.refl _
  · exact fixas_subset_confirmado
  · exact List.Subset.refl _

/-- A row is new only where it is inserted. -/
theorem responde_todas (h : b.responde i c escolha = some (a, b'))
    {linha : ProgrammaticServicePrincipal} (hlinha : linha ∈ b'.todas) :
    linha ∈ b.todas ∨ ∃ original, c = .insertPrincipal original ∧ linha = original.fixo := by
  rcases responde_cases h with ⟨agora, rfl⟩ | rfl | ⟨-, rfl⟩ | ⟨agora, escrita, hwrite, rfl⟩
  · exact .inl hlinha
  · exact .inl (todas_desfeito.subset hlinha)
  · exact .inl (todas_confirmado.mem_iff.mp hlinha)
  · rw [todas_anotado, List.mem_append] at hlinha
    rcases hlinha with hold | hnew
    · exact .inl hold
    · cases hwrite with
      | @principal original => exact .inr ⟨original, rfl, List.mem_singleton.mp hnew⟩
      | revogacao => cases hnew
      | incremento => cases hnew

/-- Committed increments stay, and what is added was open in the same transaction. -/
theorem responde_incrementos (h : b.responde i c escolha = some (a, b')) :
    b.incrementos ⊆ b'.incrementos ∧ ∀ p ∈ b'.incrementos, p ∈ b.incrementos ∨
      p.1 = i ∧ (i, Escrita.incremento p.2) ∈ b.pendentes := by
  have hsame : b.incrementos ⊆ b.incrementos ∧ ∀ p ∈ b.incrementos, p ∈ b.incrementos ∨
      p.1 = i ∧ (i, Escrita.incremento p.2) ∈ b.pendentes :=
    ⟨List.Subset.refl _, fun p hp => .inl hp⟩
  rcases responde_cases h with ⟨agora, rfl⟩ | rfl | ⟨-, rfl⟩ | ⟨agora, escrita, -, rfl⟩
  · exact hsame
  · exact hsame
  · have hledger : (b.confirmado i).incrementos = _ := vista_incrementos
    rw [hledger]
    refine ⟨List.subset_append_left _ _, fun p hp => ?_⟩
    rcases List.mem_append.mp hp with hold | hnew
    · exact .inl hold
    · obtain ⟨key, hkey, rfl⟩ := List.mem_map.mp hnew
      obtain ⟨escrita, hescrita, hchave⟩ := List.mem_filterMap.mp hkey
      cases escrita with
      | incremento key' =>
        obtain rfl := Option.some.inj hchave
        exact .inr ⟨rfl, mem_escritasDe.mp hescrita⟩
      | principal linha => cases hchave
      | revogacao id moment => cases hchave
  · exact hsame

/-- What is committed with an open increment holds it. -/
theorem mem_incrementos_confirmado (h : (i, Escrita.incremento key) ∈ b.pendentes) :
    (i, key) ∈ (b.confirmado i).incrementos := by
  have hledger : (b.confirmado i).incrementos = _ := vista_incrementos
  rw [hledger]
  refine List.mem_append_right _ (List.mem_map_of_mem (List.mem_filterMap.mpr ?_))
  exact ⟨_, mem_escritasDe.mpr h, rfl⟩

/-- A write of a process is an earlier one or the one that its call leaves. -/
theorem responde_pendentes (h : b.responde i c escolha = some (a, b'))
    (hescrita : (i, escrita) ∈ b'.pendentes) :
    (i, escrita) ∈ b.pendentes ∨ ∃ agora, Anotavel (b.aberto i agora) i c escrita := by
  rcases responde_cases h with ⟨agora, rfl⟩ | rfl | ⟨-, rfl⟩ | ⟨agora, escrita', hwrite, rfl⟩
  · exact .inl hescrita
  · exact .inl (List.mem_of_mem_filter hescrita)
  · rw [confirmado_pendentes] at hescrita
    exact .inl (List.mem_of_mem_filter hescrita)
  · rcases List.mem_append.mp hescrita with hold | hnew
    · exact .inl hold
    · obtain ⟨-, rfl⟩ := Prod.mk.inj (List.mem_singleton.mp hnew)
      exact .inr ⟨agora, hwrite⟩

/-! ## What a call answers -/

theorem of_getByKeyId {keyId : String} {linha : ProgrammaticServicePrincipal}
    (h : b.responde i (.getByKeyId keyId) escolha = some (.ok (some linha), b')) :
    linha ∈ (b.vista i).principais ∧ linha.keyId = keyId := by
  cases escolha with
  | atende agora =>
    obtain ⟨hfound, -⟩ := Prod.mk.inj (Option.some.inj h)
    have hfind : (b.vista i).principais.find? (·.keyId == keyId) = some linha :=
      Except.ok.inj hfound
    have hkey := List.find?_some hfind
    exact ⟨List.mem_of_find?_eq_some hfind, by simpa using hkey⟩
  | falha => cases (Prod.mk.inj (Option.some.inj h)).1
  | perde => cases (Prod.mk.inj (Option.some.inj h)).1

theorem of_databaseNow (h : b.responde i .databaseNow escolha = some (.ok agora, b')) :
    b'.inicio i = some agora := by
  cases escolha with
  | atende agora' =>
    obtain ⟨hanswer, rfl⟩ := Prod.mk.inj (Option.some.inj h)
    have hnow : b.agoraDe i agora' = agora := Except.ok.inj hanswer
    simp [aberto, hnow]
  | falha => cases (Prod.mk.inj (Option.some.inj h)).1
  | perde => cases (Prod.mk.inj (Option.some.inj h)).1

/-- In a transaction that began at an instant, the quota is that of its window. -/
theorem of_consumeQuota {principalId : Uuid} {operation : String}
    {quotaLimit quotaWindowSeconds : Int} {liberado : Bool} (hinicio : b.inicio i = some agora)
    (h : b.responde i (.consumeQuota principalId operation quotaLimit quotaWindowSeconds)
      escolha = some (.ok liberado, b')) :
    let key : QuotaKey := ⟨principalId, operation, windowStart agora quotaWindowSeconds⟩
    if liberado then (i, Escrita.incremento key) ∈ b'.pendentes
    else ∃ used, (b.vista i).used key = some used ∧ quotaLimit ≤ used := by
  cases escolha with
  | falha => cases (Prod.mk.inj (Option.some.inj h)).1
  | perde => cases (Prod.mk.inj (Option.some.inj h)).1
  | atende agora' =>
    have hnow : b.agoraDe i agora' = agora := by rw [agoraDe, hinicio, Option.getD_some]
    change (b.aberto i agora').consome i
      ⟨principalId, operation, windowStart (b.agoraDe i agora') quotaWindowSeconds⟩ quotaLimit =
        some (.ok liberado, b') at h
    rw [hnow] at h
    have hvista : ((b.aberto i agora').vista i).used = (b.vista i).used := by
      have hused (escritas : List Escrita) : ∀ b₁ b₂ : Banco, b₁.used = b₂.used →
          (escritas.foldl (fun b escrita => b.aplicada i escrita) b₁).used =
            (escritas.foldl (fun b escrita => b.aplicada i escrita) b₂).used := by
        induction escritas with
        | nil => exact fun _ _ heq => heq
        | cons escrita escritas ih =>
          intro b₁ b₂ heq
          refine ih _ _ ?_
          cases escrita <;> simp [aplicada, heq]
      exact hused _ _ _ rfl
    unfold consome at h
    rw [hvista] at h
    split at h
    case isTrue => cases h
    case isFalse =>
      split at h
      case h_1 =>
        obtain ⟨hanswer, rfl⟩ := Prod.mk.inj (Option.some.inj h)
        obtain rfl := Except.ok.inj hanswer
        exact List.mem_append_right _ List.mem_cons_self
      case h_2 used hused =>
        split at h
        case isTrue =>
          obtain ⟨hanswer, rfl⟩ := Prod.mk.inj (Option.some.inj h)
          obtain rfl := Except.ok.inj hanswer
          exact List.mem_append_right _ List.mem_cons_self
        case isFalse hlimit =>
          obtain ⟨hanswer, rfl⟩ := Prod.mk.inj (Option.some.inj h)
          obtain rfl := Except.ok.inj hanswer
          exact ⟨used, hused, by omega⟩

theorem of_commit (h : b.responde i .commit escolha = some (.ok (), b')) :
    b' = b.confirmado i := by
  cases escolha with
  | atende agora => exact (Prod.mk.inj (Option.some.inj h)).2.symm
  | falha => cases (Prod.mk.inj (Option.some.inj h)).1
  | perde => cases (Prod.mk.inj (Option.some.inj h)).1

/-! ## What stays true -/

/-- The counters hold what was counted, every row has a quota, the ids and the key ids
differ, and no bucket holds more than the limit of its principal. -/
structure Coerente (b : Banco) : Prop where
  contado : b.Contado
  quotaLimit_positive : ∀ linha ∈ b.todas, 0 < linha.quotaLimit
  ids : (b.todas.map ProgrammaticServicePrincipal.id).Nodup
  keyIds : (b.todas.map ProgrammaticServicePrincipal.keyId).Nodup
  limitado : ∀ key, 0 < b.total key →
    ∃ linha ∈ b.fixas, linha.id = key.principalId ∧ (b.total key : Int) ≤ linha.quotaLimit

/-- No bucket holds more than the limit of any row of its principal. -/
theorem Coerente.total_le (h : b.Coerente) {linha : ProgrammaticServicePrincipal}
    (hlinha : linha ∈ b.todas) (hid : linha.id = key.principalId) :
    (b.total key : Int) ≤ linha.quotaLimit := by
  rcases Nat.eq_zero_or_pos (b.total key) with hzero | hpositive
  · rw [hzero]
    exact (h.quotaLimit_positive linha hlinha).le
  · obtain ⟨linha', hlinha', hid', hle⟩ := h.limitado key hpositive
    have hsame : linha' = linha :=
      List.inj_on_of_nodup_map h.ids (fixas_subset_todas hlinha') hlinha (hid'.trans hid.symm)
    exact hsame ▸ hle

/-- A row that conflicts with none of those a transaction sees, nor with those of other
transactions, conflicts with none. -/
theorem conflita_of_anotavel {linha outra : ProgrammaticServicePrincipal}
    (hfree : (b.vista i).principais.any (conflita linha) = false)
    (hunlocked : b.preso i (Escrita.ocupa linha) = false) (houtra : outra ∈ b.todas) :
    conflita linha outra = false := by
  have hfixo (outra' : ProgrammaticServicePrincipal) :
      conflita linha outra'.fixo = conflita linha outra' := rfl
  have hseen : ∀ outra' ∈ (b.vista i).principais.map ProgrammaticServicePrincipal.fixo,
      conflita linha outra' = false := by
    intro outra' houtra'
    obtain ⟨original, horiginal, rfl⟩ := List.mem_map.mp houtra'
    rw [hfixo]
    exact Bool.not_eq_true _ ▸ List.any_eq_false.mp hfree original horiginal
  rw [todas, List.map_append, List.mem_append] at houtra
  rcases houtra with hcommitted | hopen
  · exact hseen outra (vista_fixo ▸ List.mem_append_left _ hcommitted)
  · obtain ⟨original, horiginal, rfl⟩ := List.mem_map.mp hopen
    obtain ⟨⟨j, escrita⟩, hpending, hrow⟩ := List.mem_filterMap.mp horiginal
    by_cases hj : j = i
    · have hown : original ∈ (b.escritasDe i).filterMap Escrita.linha? :=
        List.mem_filterMap.mpr ⟨escrita, mem_escritasDe.mpr (hj ▸ hpending), hrow⟩
      exact hseen _ (vista_fixo ▸ List.mem_append_right _ (List.mem_map_of_mem hown))
    · cases escrita with
      | principal linha' =>
        obtain rfl := Option.some.inj hrow
        rw [preso, List.any_eq_false] at hunlocked
        have hother := hunlocked _ hpending
        simp only [bne_iff_ne, ne_eq, hj, not_false_eq_true, Bool.and_eq_true, true_and,
          Bool.not_eq_true] at hother
        rw [hfixo]
        simpa [Escrita.ocupa, hj] using hother
      | revogacao id moment => cases hrow
      | incremento key => cases hrow

theorem Coerente.aberto (h : b.Coerente) (i : Nat) (agora : Instant) :
    (b.aberto i agora).Coerente := ⟨h.contado, h.quotaLimit_positive, h.ids, h.keyIds, h.limitado⟩

theorem Coerente.desfeito (h : b.Coerente) (i : Nat) : (b.desfeito i).Coerente where
  contado := h.contado
  quotaLimit_positive linha hlinha := h.quotaLimit_positive linha (todas_desfeito.subset hlinha)
  ids := (todas_desfeito.map _).nodup h.ids
  keyIds := (todas_desfeito.map _).nodup h.keyIds
  limitado key hpositive := by
    have hless : (b.desfeito i).total key ≤ b.total key := total_desfeito
    obtain ⟨linha, hlinha, hid, hle⟩ := h.limitado key (by omega)
    exact ⟨linha, hlinha, hid, by omega⟩

theorem Coerente.confirmado (h : b.Coerente) (i : Nat) : (b.confirmado i).Coerente where
  contado := h.contado.vista i
  quotaLimit_positive linha hlinha :=
    h.quotaLimit_positive linha (todas_confirmado.mem_iff.mp hlinha)
  ids := (todas_confirmado.map _).nodup_iff.mpr h.ids
  keyIds := (todas_confirmado.map _).nodup_iff.mpr h.keyIds
  limitado key hpositive := by
    rw [total_confirmado] at hpositive ⊢
    obtain ⟨linha, hlinha, hid, hle⟩ := h.limitado key hpositive
    exact ⟨linha, fixas_subset_confirmado hlinha, hid, hle⟩

/-- A write keeps all of it, when an increment is for a principal that has its limit. -/
theorem Coerente.anotado (h : b.Coerente) (hwrite : Anotavel b i c escrita)
    (hlimits : ∀ principalId operation quotaLimit quotaWindowSeconds,
      c = .consumeQuota principalId operation quotaLimit quotaWindowSeconds →
      ∃ linha ∈ b.fixas, linha.id = principalId ∧ linha.quotaLimit = quotaLimit) :
    (b.anotado i escrita).Coerente := by
  cases hwrite with
  | @principal linha haccepted hfree hunlocked =>
    have hrows : (b.anotado i (.principal linha)).todas = b.todas ++ [linha.fixo] := todas_anotado
    have hnew : ∀ outra ∈ b.todas, linha.fixo.id ≠ outra.id ∧ linha.fixo.keyId ≠ outra.keyId := by
      intro outra houtra
      have hfree' := conflita_of_anotavel hfree hunlocked houtra
      simpa [conflita, ProgrammaticServicePrincipal.fixo] using hfree'
    have htotal (key : QuotaKey) : (b.anotado i (.principal linha)).total key = b.total key := by
      simpa using @total_anotado b i (.principal linha) key
    constructor
    case contado => exact h.contado
    case quotaLimit_positive =>
      intro linha' hlinha'
      rw [hrows, List.mem_append, List.mem_singleton] at hlinha'
      rcases hlinha' with hold | rfl
      · exact h.quotaLimit_positive linha' hold
      · simp only [linhaAceita, Bool.and_eq_true, decide_eq_true_eq] at haccepted
        exact haccepted.1.1.1.1.1
    case ids =>
      rw [hrows, List.map_append, List.nodup_append]
      refine ⟨h.ids, List.nodup_singleton _, ?_⟩
      intro id hid id' hid' heq
      obtain ⟨outra, houtra, rfl⟩ := List.mem_map.mp hid
      obtain rfl := List.mem_singleton.mp hid'
      exact (hnew outra houtra).1 heq.symm
    case keyIds =>
      rw [hrows, List.map_append, List.nodup_append]
      refine ⟨h.keyIds, List.nodup_singleton _, ?_⟩
      intro id hid id' hid' heq
      obtain ⟨outra, houtra, rfl⟩ := List.mem_map.mp hid
      obtain rfl := List.mem_singleton.mp hid'
      exact (hnew outra houtra).2 heq.symm
    case limitado =>
      intro key hpositive
      rw [htotal] at hpositive ⊢
      exact h.limitado key hpositive
  | @revogacao id moment =>
    have hrows : (b.anotado i (.revogacao id moment)).todas = b.todas := by
      rw [todas_anotado]
      exact List.append_nil _
    have htotal (key : QuotaKey) : (b.anotado i (.revogacao id moment)).total key = b.total key := by
      simpa using @total_anotado b i (.revogacao id moment) key
    refine ⟨h.contado, hrows ▸ h.quotaLimit_positive, hrows ▸ h.ids, hrows ▸ h.keyIds, ?_⟩
    intro key hpositive
    rw [htotal] at hpositive ⊢
    exact h.limitado key hpositive
  | @incremento key quotaLimit quotaWindowSeconds hunlocked hlimit =>
    obtain ⟨linha, hlinha, hid, hquota⟩ := hlimits _ _ _ _ rfl
    have hrows : (b.anotado i (.incremento key)).todas = b.todas := by
      rw [todas_anotado]
      exact List.append_nil _
    refine ⟨h.contado, hrows ▸ h.quotaLimit_positive, hrows ▸ h.ids, hrows ▸ h.keyIds, ?_⟩
    intro key' hpositive
    rw [total_anotado] at hpositive ⊢
    by_cases hkey : key = key'
    · subst hkey
      have hopen : b.total key = (b.vista i).contagem key := by
        rw [total, contagem_vista, reservas_of_not_preso hunlocked]
      have hused := h.contado.vista i key
      have hlow : (b.total key : Int) < linha.quotaLimit := by
        rcases Nat.eq_zero_or_pos (b.total key) with hzero | hsome
        · rw [hzero]
          exact h.quotaLimit_positive linha (fixas_subset_todas hlinha)
        · rw [if_neg (by omega)] at hused
          have hbound := hlimit _ hused
          rw [hopen, hquota]
          exact hbound
      refine ⟨linha, hlinha, hid, ?_⟩
      rw [if_pos rfl]
      omega
    · have hother : ¬Escrita.incremento key = .incremento key' := by simpa using hkey
      rw [if_neg hother, Nat.add_zero] at hpositive ⊢
      exact h.limitado key' hpositive

/-- Whatever is answered, all of it stays true. -/
theorem Coerente.responde (h : b.Coerente) (hresponde : b.responde i c escolha = some (a, b'))
    (hlimits : ∀ principalId operation quotaLimit quotaWindowSeconds,
      c = .consumeQuota principalId operation quotaLimit quotaWindowSeconds →
      ∃ linha ∈ b.fixas, linha.id = principalId ∧ linha.quotaLimit = quotaLimit) :
    b'.Coerente := by
  rcases responde_cases hresponde with ⟨agora, rfl⟩ | rfl | ⟨-, rfl⟩ | ⟨agora, escrita, hwrite, rfl⟩
  · exact h.aberto i agora
  · exact h.desfeito i
  · exact h.confirmado i
  · exact (h.aberto i agora).anotado hwrite hlimits

end Banco

end PiaOs.Access
