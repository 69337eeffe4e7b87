import PiaOs.Memory.Accessibility
import PiaOs.Memory.Codec.RetentionRoundTrip

/-!
# The stored rules of governance and of accessibility

The rules of a version are written in the order of their effects and identifiers, with every set
as the sorted list of its texts. A reader iterates over what it finds and leaves the rest to the
constructor; `none` is any exception that it raises.
-/

namespace PiaOs.Memory.Codec

open Support Piap

/-! ## Sets of texts -/

/-- `a <= b` on texts, by their code points. -/
def NaOrdem (a b : Texto) : Prop := a.map CodePoint.ord ≤ b.map CodePoint.ord

instance naOrdem_decidable : DecidableRel NaOrdem := fun a b =>
  inferInstanceAs (Decidable (a.map CodePoint.ord ≤ b.map CodePoint.ord))

instance naOrdem_total : Std.Total NaOrdem where
  total _ _ := le_total _ _

instance naOrdem_trans : IsTrans Texto NaOrdem where
  trans _ _ _ := le_trans

instance naOrdem_antisymm : Std.Antisymm NaOrdem where
  antisymm _ _ hab hba := ord_injective.list_map (le_antisymm hab hba)

/-- `sorted(textos)`. -/
def textosEmOrdem (textos : Finset Texto) : List Texto := textos.sort NaOrdem

def textosParaJson (textos : Finset Texto) : Valor :=
  .lista ((textosEmOrdem textos).map Valor.texto)

/-- What a value gives when it is iterated: a text its characters, an object its names. -/
def iterado : Valor → Option (List Valor)
  | .lista itens => some itens
  | .texto t => some (t.map fun c => .texto [c])
  | .objeto campos => some (campos.map fun par => .texto par.1)
  | _ => none

def textoLido {α : Type} (ler : Texto → Option α) : Valor → Option α
  | .texto t => ler t
  | _ => none

/-- `frozenset(ler(item) for item in v)`, which reads every item. -/
def conjuntoDe {α : Type} [DecidableEq α] (ler : Texto → Option α) (v : Valor) :
    Option (Finset α) :=
  (iterado v).bind fun itens =>
    if itens.all fun item => (textoLido ler item).isSome then
      some (itens.filterMap (textoLido ler)).toFinset
    else none

/-- A set is read back from the texts of its members. -/
theorem conjuntoDe_textosParaJson {α : Type} [DecidableEq α] {ler : Texto → Option α}
    {escrever : α → Texto} (hread : ∀ a, ler (escrever a) = some a) (conjunto : Finset α) :
    conjuntoDe ler (textosParaJson (conjunto.image escrever)) = some conjunto := by
  have hmem (t : Texto) : t ∈ textosEmOrdem (conjunto.image escrever) ↔
      ∃ a ∈ conjunto, escrever a = t := by
    rw [textosEmOrdem, Finset.mem_sort, Finset.mem_image]
  have hall : ((textosEmOrdem (conjunto.image escrever)).map Valor.texto).all
      (fun item => (textoLido ler item).isSome) = true := by
    rw [List.all_eq_true]
    intro item hitem
    obtain ⟨t, ht, rfl⟩ := List.mem_map.mp hitem
    obtain ⟨a, -, rfl⟩ := (hmem t).mp ht
    rw [textoLido, hread, Option.isSome_some]
  unfold conjuntoDe textosParaJson
  simp only [iterado, Option.bind_some]
  rw [if_pos hall]
  congr 1
  ext a
  rw [List.mem_toFinset, List.mem_filterMap]
  constructor
  · rintro ⟨item, hitem, hlido⟩
    obtain ⟨t, ht, rfl⟩ := List.mem_map.mp hitem
    obtain ⟨b, hb, rfl⟩ := (hmem t).mp ht
    rw [textoLido, hread] at hlido
    rwa [← Option.some.inj hlido]
  · intro ha
    exact ⟨_, List.mem_map_of_mem ((hmem _).mpr ⟨a, ha, rfl⟩), hread a⟩

/-! ## Fields -/

/-- The text of a field that has to be one. -/
def textoDoCampo (campos : List (Texto × Valor)) (chave : String) : Option Texto :=
  (campos.lookup (Texto.of chave)).bind (textoLido some)

/-- The set of a field. -/
def conjuntoDoCampo {α : Type} [DecidableEq α] (ler : Texto → Option α)
    (campos : List (Texto × Valor)) (chave : String) : Option (Finset α) :=
  (campos.lookup (Texto.of chave)).bind (conjuntoDe ler)

/-- The member of an enumeration that has the value. -/
def membro? {α : Type} (membros : List α) (value : α → String) (t : Texto) : Option α :=
  membros.find? fun m => Texto.of (value m) = t

/-- The members of a vocabulary are read back from their values. -/
theorem membro?_value {α : Type} {membros : List α} {value : α → String}
    (hall : ∀ m, m ∈ membros) (hnodup : (membros.map value).Nodup) (m : α) :
    membro? membros value (Texto.of (value m)) = some m := by
  unfold membro?
  cases hfind : membros.find? fun m' => Texto.of (value m') = Texto.of (value m) with
  | none =>
    have hnot := List.find?_eq_none.mp hfind m (hall m)
    simp at hnot
  | some m' =>
    have hvalue : Texto.of (value m') = Texto.of (value m) := by simpa using List.find?_some hfind
    rw [List.inj_on_of_nodup_map hnodup (hall m') (hall m) (texto_of_injective hvalue)]

def governanceEffects : List GovernanceEffect := [.admits, .deny]

def cognitiveOperations : List CognitiveOperation :=
  [.read, .reference, .derive, .transform, .expose, .synchronize, .consolidate,
    .accessibilityTransition, .retentionAssessment, .retentionDisposition, .legalErasure]

theorem efeito_value (effect : GovernanceEffect) :
    membro? governanceEffects GovernanceEffect.value (Texto.of effect.value) = some effect :=
  membro?_value (fun m => by cases m <;> decide) (by decide) effect

theorem operacao_value (operation : CognitiveOperation) :
    membro? cognitiveOperations CognitiveOperation.value (Texto.of operation.value) =
      some operation :=
  membro?_value (fun m => by cases m <;> decide) (by decide) operation

/-! ## Lists of rules -/

section Lists

variable {R : Type} (ruleId : R → Texto) (sortKey : R → String ×ₗ List ℕ) (paraJson : R → Valor)
  {regras : List R} {w : List Valor}

/-- `serialize_rules`, which refuses the identifiers that occur more than once. -/
def serializar (regras : List R) : Except (List Texto) (List Valor) :=
  if repetidos (regras.map ruleId) = [] then
    .ok ((regras.insertionSort fun a b => sortKey a ≤ sortKey b).map paraJson)
  else .error (repetidos (regras.map ruleId))

variable {ruleId sortKey paraJson}

theorem serializar_eq_ok : serializar ruleId sortKey paraJson regras = .ok w ↔
    (regras.map ruleId).Nodup ∧
      w = (regras.insertionSort fun a b => sortKey a ≤ sortKey b).map paraJson := by
  unfold serializar
  by_cases hnone : repetidos (regras.map ruleId) = []
  · rw [if_pos hnone, Except.ok.injEq, @eq_comm _ w]
    exact (and_iff_right (repetidos_eq_nil.mp hnone)).symm
  · rw [if_neg hnone]
    exact iff_of_false (by simp) fun h => hnone (repetidos_eq_nil.mpr h.1)

/-- A traversal reads back what was written of each. -/
theorem mapM_paraJson {ler : Valor → Option R} (hread : ∀ regra, ler (paraJson regra) = some regra)
    (regras : List R) : (regras.map paraJson).mapM ler = some regras := by
  induction regras with
  | nil => rfl
  | cons regra regras ih =>
    rw [List.map_cons, List.mapM_cons, hread, ih]
    rfl

end Lists

/-! ## Rules of governance -/

/-- A rule, with what its constructor has checked. -/
structure GovernanceRule where
  ruleId : Texto
  effect : GovernanceEffect
  operations : Finset CognitiveOperation := ∅
  domainIds : Finset Referencia := ∅
  actorRefs : Finset Texto := ∅
  purposes : Finset Texto := ∅
  ruleId_stated : ruleId.all CodePoint.isSpace = false
  actorRefs_stated : ∀ actor ∈ actorRefs, actor.all CodePoint.isSpace = false
  purposes_stated : ∀ purpose ∈ purposes, purpose.all CodePoint.isSpace = false

namespace GovernanceRule

/-- The constructor. -/
def construir (ruleId : Texto) (effect : GovernanceEffect) (operations : Finset CognitiveOperation)
    (domainIds : Finset Referencia) (actorRefs purposes : Finset Texto) : Option GovernanceRule :=
  if h : ruleId.all CodePoint.isSpace = false ∧
      (∀ actor ∈ actorRefs, actor.all CodePoint.isSpace = false) ∧
      ∀ purpose ∈ purposes, purpose.all CodePoint.isSpace = false then
    some ⟨ruleId, effect, operations, domainIds, actorRefs, purposes, h.1, h.2.1, h.2.2⟩
  else none

/-- `sort_key`. -/
def sortKey (rule : GovernanceRule) : String ×ₗ List ℕ :=
  toLex (rule.effect.value, rule.ruleId.map CodePoint.ord)

def campos (rule : GovernanceRule) : List (Texto × Valor) :=
  [(Texto.of "rule_id", .texto rule.ruleId),
    (Texto.of "effect", .texto (Texto.of rule.effect.value)),
    (Texto.of "operations",
      textosParaJson (rule.operations.image fun operation => Texto.of operation.value)),
    (Texto.of "domain_ids", textosParaJson (rule.domainIds.image fun id => Texto.of id.str)),
    (Texto.of "actor_refs", textosParaJson (rule.actorRefs.image id)),
    (Texto.of "purposes", textosParaJson (rule.purposes.image id))]

def paraJson (rule : GovernanceRule) : Valor := .objeto rule.campos

/-- The rule of an item. -/
def deJson : Valor → Option GovernanceRule
  | .objeto campos =>
    (textoDoCampo campos "rule_id").bind fun ruleId =>
    ((textoDoCampo campos "effect").bind
      (membro? governanceEffects GovernanceEffect.value)).bind fun effect =>
    (conjuntoDoCampo (membro? cognitiveOperations CognitiveOperation.value) campos
      "operations").bind fun operations =>
    (conjuntoDoCampo uuidDeTexto? campos "domain_ids").bind fun domainIds =>
    (conjuntoDoCampo some campos "actor_refs").bind fun actorRefs =>
    (conjuntoDoCampo some campos "purposes").bind fun purposes =>
    construir ruleId effect operations domainIds actorRefs purposes
  | _ => none

/-- `GovernancePolicy.serialize_rules`. -/
def serializeRules : List GovernanceRule → Except (List Texto) (List Valor) :=
  serializar ruleId sortKey paraJson

/-- `GovernancePolicy.deserialize_rules`, which refuses a repeated identifier. -/
def deserializeRules (payload : List Valor) : Option (List GovernanceRule) :=
  (payload.mapM deJson).bind fun regras =>
    if (regras.map ruleId).Nodup then some regras else none

theorem construir_eq (rule : GovernanceRule) : construir rule.ruleId rule.effect rule.operations
    rule.domainIds rule.actorRefs rule.purposes = some rule :=
  dif_pos ⟨rule.ruleId_stated, rule.actorRefs_stated, rule.purposes_stated⟩

theorem deJson_paraJson (rule : GovernanceRule) : deJson rule.paraJson = some rule := by
  have hruleId : textoDoCampo rule.campos "rule_id" = some rule.ruleId := rfl
  have heffect : textoDoCampo rule.campos "effect" = some (Texto.of rule.effect.value) := rfl
  have hoperations : conjuntoDoCampo (membro? cognitiveOperations CognitiveOperation.value)
      rule.campos "operations" = some rule.operations :=
    conjuntoDe_textosParaJson operacao_value rule.operations
  have hdomains : conjuntoDoCampo uuidDeTexto? rule.campos "domain_ids" = some rule.domainIds :=
    conjuntoDe_textosParaJson uuidDeTexto?_str rule.domainIds
  have hactors : conjuntoDoCampo some rule.campos "actor_refs" = some rule.actorRefs :=
    conjuntoDe_textosParaJson (fun _ => rfl) rule.actorRefs
  have hpurposes : conjuntoDoCampo some rule.campos "purposes" = some rule.purposes :=
    conjuntoDe_textosParaJson (fun _ => rfl) rule.purposes
  unfold paraJson deJson
  simp only [hruleId, heffect, efeito_value, hoperations, hdomains, hactors, hpurposes,
    Option.bind_some]
  exact rule.construir_eq

/-- Rules that were written are read back, in some order. -/
theorem deserializeRules_of_serializeRules {regras : List GovernanceRule} {w : List Valor}
    (h : serializeRules regras = .ok w) :
    ∃ lidas, deserializeRules w = some lidas ∧ lidas.Perm regras := by
  obtain ⟨hnodup, rfl⟩ := serializar_eq_ok.mp h
  have hperm := List.perm_insertionSort (fun a b : GovernanceRule => a.sortKey ≤ b.sortKey) regras
  refine ⟨_, ?_, hperm⟩
  unfold deserializeRules
  rw [mapM_paraJson deJson_paraJson, Option.bind_some,
    if_pos ((hperm.map ruleId).nodup_iff.mpr hnodup)]

end GovernanceRule

/-! ## Rules of accessibility -/

/-- `_tokens`: one token of the vocabulary, and no other. -/
def UmToken (states : Finset Texto) : Prop :=
  (∀ token ∈ states, token ∈ accessibilityStates.map fun state => Texto.of state.value) ∧
    states.card = 1

instance umToken_decidable (states : Finset Texto) : Decidable (UmToken states) :=
  inferInstanceAs (Decidable (_ ∧ _))

/-- An edge, with each of its ends as a set. -/
structure AccessibilityRule where
  ruleId : Texto
  effect : GovernanceEffect
  sourceStates : Finset Texto
  targetStates : Finset Texto
  ruleId_stated : ruleId.all CodePoint.isSpace = false
  source_token : UmToken sourceStates
  target_token : UmToken targetStates
  no_selfLoop : sourceStates ≠ targetStates

namespace AccessibilityRule

/-- The constructor. -/
def construir (ruleId : Texto) (effect : GovernanceEffect) (sourceStates targetStates : Finset Texto) :
    Option AccessibilityRule :=
  if h : ruleId.all CodePoint.isSpace = false ∧ UmToken sourceStates ∧ UmToken targetStates ∧
      sourceStates ≠ targetStates then
    some ⟨ruleId, effect, sourceStates, targetStates, h.1, h.2.1, h.2.2.1, h.2.2.2⟩
  else none

/-- `sort_key`. -/
def sortKey (rule : AccessibilityRule) : String ×ₗ List ℕ :=
  toLex (rule.effect.value, rule.ruleId.map CodePoint.ord)

def campos (rule : AccessibilityRule) : List (Texto × Valor) :=
  [(Texto.of "rule_id", .texto rule.ruleId),
    (Texto.of "effect", .texto (Texto.of rule.effect.value)),
    (Texto.of "source_states", textosParaJson (rule.sourceStates.image id)),
    (Texto.of "target_states", textosParaJson (rule.targetStates.image id))]

def paraJson (rule : AccessibilityRule) : Valor := .objeto rule.campos

/-- The rule of an item. -/
def deJson : Valor → Option AccessibilityRule
  | .objeto campos =>
    (textoDoCampo campos "rule_id").bind fun ruleId =>
    ((textoDoCampo campos "effect").bind
      (membro? governanceEffects GovernanceEffect.value)).bind fun effect =>
    (conjuntoDoCampo some campos "source_states").bind fun sourceStates =>
    (conjuntoDoCampo some campos "target_states").bind fun targetStates =>
    construir ruleId effect sourceStates targetStates
  | _ => none

/-- `AccessibilityPolicy.serialize_rules`. -/
def serializeRules : List AccessibilityRule → Except (List Texto) (List Valor) :=
  serializar ruleId sortKey paraJson

/-- `AccessibilityPolicy.deserialize_rules`, which does not look for repeated identifiers. -/
def deserializeRules (payload : List Valor) : Option (List AccessibilityRule) :=
  payload.mapM deJson

theorem construir_eq (rule : AccessibilityRule) :
    construir rule.ruleId rule.effect rule.sourceStates rule.targetStates = some rule :=
  dif_pos ⟨rule.ruleId_stated, rule.source_token, rule.target_token, rule.no_selfLoop⟩

theorem deJson_paraJson (rule : AccessibilityRule) : deJson rule.paraJson = some rule := by
  have hruleId : textoDoCampo rule.campos "rule_id" = some rule.ruleId := rfl
  have heffect : textoDoCampo rule.campos "effect" = some (Texto.of rule.effect.value) := rfl
  have hsource : conjuntoDoCampo some rule.campos "source_states" = some rule.sourceStates :=
    conjuntoDe_textosParaJson (fun _ => rfl) rule.sourceStates
  have htarget : conjuntoDoCampo some rule.campos "target_states" = some rule.targetStates :=
    conjuntoDe_textosParaJson (fun _ => rfl) rule.targetStates
  unfold paraJson deJson
  simp only [hruleId, heffect, efeito_value, hsource, htarget, Option.bind_some]
  exact rule.construir_eq

/-- Rules that were written are read back, in some order. -/
theorem deserializeRules_of_serializeRules {regras : List AccessibilityRule} {w : List Valor}
    (h : serializeRules regras = .ok w) :
    ∃ lidas, deserializeRules w = some lidas ∧ lidas.Perm regras := by
  obtain ⟨-, rfl⟩ := serializar_eq_ok.mp h
  exact ⟨_, mapM_paraJson deJson_paraJson _,
    List.perm_insertionSort (fun a b : AccessibilityRule => a.sortKey ≤ b.sortKey) regras⟩

end AccessibilityRule

end PiaOs.Memory.Codec
