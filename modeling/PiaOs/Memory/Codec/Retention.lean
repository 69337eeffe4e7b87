import Mathlib.Data.Finset.Sort
import PiaOs.Memory.Codec.UuidText
import PiaOs.Memory.Retention

/-!
# The stored rules of retention

A policy keeps its rules as a JSON array in canonical order. The reader looks at the shape of
every field, converts it, and leaves the rest to the constructor of the rule.
-/

namespace PiaOs.Memory

def RetentionScopeKind.value : RetentionScopeKind → String
  | .allLocalPatrimony => "all_local_patrimony"
  | .memoryDomainSet => "memory_domain_set"

namespace Codec

open Support Piap

inductive RetentionAnchor
  | createdAt
  deriving DecidableEq

def RetentionAnchor.value : RetentionAnchor → String
  | .createdAt => "created_at"

inductive RetentionExpiryAction
  | assessAndInform
  deriving DecidableEq

def RetentionExpiryAction.value : RetentionExpiryAction → String
  | .assessAndInform => "assess_and_inform"

/-- What the constructor of a rule refuses. -/
inductive RecusaDaRegra
  | idVazio
  | idInvisivel (c : CodePoint)
  | idExcede (tamanho : ℕ)
  | idadeMenorQueUm
  | patrimonioComDominios
  | conjuntoDeDominiosVazio
  deriving DecidableEq

inductive Erro
  | regra (r : RecusaDaRegra)
  | semRegras
  | idsDuplicados (ids : List Texto)
  /-- The payload of a reading is empty, or a scalar. -/
  | payload
  | naoObjeto (indice : ℕ)
  | faltam (indice : ℕ) (chaves : List String)
  | naoTexto (indice : ℕ) (campo : String)
  | naoInteiro (indice : ℕ)
  | naoLista (indice : ℕ)
  | dominioNaoTexto (indice posicao : ℕ)
  | dominioNaoUuid (indice posicao : ℕ) (bruto : Texto)
  | foraDoVocabulario (indice : ℕ) (valor : Texto)
  | idRepetido (id : Texto)
  deriving DecidableEq

def maxRuleIdLength : ℕ := 256

/-- `validar_identificador_opaco`, of the identifier of a rule. -/
def validarRuleId (ruleId : Texto) : Option RecusaDaRegra :=
  if ruleId.all CodePoint.isSpace then some .idVazio
  else match ruleId.find? CodePoint.proibido with
    | some c => some (.idInvisivel c)
    | none => if maxRuleIdLength < ruleId.length then some (.idExcede maxRuleIdLength) else none

/-- What `__post_init__` checks, in order. -/
def violacaoDaRegra (ruleId : Texto) (scopeKind : RetentionScopeKind) (minimumAgeDays : ℤ)
    (domainIds : Finset Referencia) : Option RecusaDaRegra :=
  [validarRuleId ruleId,
    if minimumAgeDays < 1 then some .idadeMenorQueUm else none,
    if scopeKind = .allLocalPatrimony ∧ domainIds ≠ ∅ then some .patrimonioComDominios else none,
    if scopeKind = .memoryDomainSet ∧ domainIds = ∅ then some .conjuntoDeDominiosVazio
    else none].findSome? fun recusa => recusa

structure RetentionRule where
  ruleId : Texto
  scopeKind : RetentionScopeKind
  minimumAgeDays : ℤ
  domainIds : Finset Referencia := ∅
  anchor : RetentionAnchor := .createdAt
  onExpiryAction : RetentionExpiryAction := .assessAndInform
  accepted : violacaoDaRegra ruleId scopeKind minimumAgeDays domainIds = none

/-- The constructor. -/
def RetentionRule.construir (ruleId : Texto) (scopeKind : RetentionScopeKind)
    (domainIds : Finset Referencia) (anchor : RetentionAnchor) (minimumAgeDays : ℤ)
    (onExpiryAction : RetentionExpiryAction) : Except Erro RetentionRule :=
  match h : violacaoDaRegra ruleId scopeKind minimumAgeDays domainIds with
  | some r => .error (.regra r)
  | none =>
    .ok { ruleId, scopeKind, minimumAgeDays, domainIds, anchor, onExpiryAction, accepted := h }

/-- `sort_key`. -/
def RetentionRule.sortKey (regra : RetentionRule) : List ℕ ×ₗ String ×ₗ ℤ :=
  toLex (regra.ruleId.map CodePoint.ord, toLex (regra.scopeKind.value, regra.minimumAgeDays))

/-! ## Writing -/

/-- The texts that occur more than once, in order. -/
def repetidos (ids : List Texto) : List Texto :=
  (ids.filter fun id => 1 < ids.count id).dedup.insertionSort fun a b => b.antes a = false

/-- `validar_regras_retencao`. -/
def validarRegrasRetencao (regras : List RetentionRule) : Option Erro :=
  if regras = [] then some .semRegras
  else if repetidos (regras.map RetentionRule.ruleId) ≠ [] then
    some (.idsDuplicados (repetidos (regras.map RetentionRule.ruleId)))
  else none

/-- `sorted(str(d) for d in ids)`. -/
def textosDosIds (ids : Finset Referencia) : List String :=
  (ids.sort.map Referencia.str).insertionSort (· ≤ ·)

/-- The fields of the JSON object of a rule. -/
def RetentionRule.campos (regra : RetentionRule) : List (Texto × Valor) :=
  [(Texto.of "rule_id", .texto regra.ruleId),
    (Texto.of "scope_kind", .texto (Texto.of regra.scopeKind.value)),
    (Texto.of "domain_ids",
      .lista ((textosDosIds regra.domainIds).map fun id => .texto (Texto.of id))),
    (Texto.of "anchor", .texto (Texto.of regra.anchor.value)),
    (Texto.of "minimum_age_days", .inteiro regra.minimumAgeDays),
    (Texto.of "on_expiry_action", .texto (Texto.of regra.onExpiryAction.value))]

def RetentionRule.paraJson (regra : RetentionRule) : Valor := .objeto regra.campos

/-- `serialize_rules`. -/
def serializeRules (regras : List RetentionRule) : Except Erro (List Valor) :=
  match validarRegrasRetencao regras with
  | some erro => .error erro
  | none =>
    .ok ((regras.insertionSort fun a b => a.sortKey ≤ b.sortKey).map RetentionRule.paraJson)

/-! ## Reading -/

/-- `CAMPOS_JSON_OBRIGATORIOS`. -/
def camposJsonObrigatorios : List String :=
  ["rule_id", "scope_kind", "domain_ids", "anchor", "minimum_age_days", "on_expiry_action"]

/-- The text of a field. -/
def textoDe (indice : ℕ) (nome : String) : Valor → Except Erro Texto
  | .texto t => .ok t
  | _ => .error (.naoTexto indice nome)

/-- The whole number of a field, no `bool`. -/
def inteiroDe (indice : ℕ) : Valor → Except Erro ℤ
  | .inteiro n => .ok n
  | _ => .error (.naoInteiro indice)

def listaDe (indice : ℕ) : Valor → Except Erro (List Valor)
  | .lista itens => .ok itens
  | _ => .error (.naoLista indice)

/-- One member of `domain_ids`. -/
def dominioDe (indice : ℕ) : Valor × ℕ → Except Erro Referencia
  | (.texto t, posicao) =>
    match uuidDeTexto? t with
    | some id => .ok id
    | none => .error (.dominioNaoUuid indice posicao t)
  | (_, posicao) => .error (.dominioNaoTexto indice posicao)

/-- The member of an enumeration with the value. -/
def membroDe {α : Type} (indice : ℕ) (membros : List α) (value : α → String) (t : Texto) :
    Except Erro α :=
  match membros.find? fun m => Texto.of (value m) = t with
  | some m => .ok m
  | none => .error (.foraDoVocabulario indice t)

/-- `regra_de_json`. -/
def regraDeJson (indice : ℕ) : Valor → Except Erro RetentionRule
  | .objeto campos =>
    let faltando := camposJsonObrigatorios.filter fun chave =>
      (campos.lookup (Texto.of chave)).isNone
    if faltando ≠ [] then .error (.faltam indice faltando)
    else do
      let ruleId ← textoDe indice "rule_id" (campo campos "rule_id")
      let scopeKind ← textoDe indice "scope_kind" (campo campos "scope_kind")
      let anchor ← textoDe indice "anchor" (campo campos "anchor")
      let onExpiryAction ← textoDe indice "on_expiry_action" (campo campos "on_expiry_action")
      let idade ← inteiroDe indice (campo campos "minimum_age_days")
      let dominios ← listaDe indice (campo campos "domain_ids")
      let convertidos ← dominios.zipIdx.mapM (dominioDe indice)
      let escopo ← membroDe indice [.allLocalPatrimony, .memoryDomainSet] RetentionScopeKind.value
        scopeKind
      let ancora ← membroDe indice [.createdAt] RetentionAnchor.value anchor
      let acao ← membroDe indice [.assessAndInform] RetentionExpiryAction.value onExpiryAction
      RetentionRule.construir ruleId escopo convertidos.toFinset ancora idade acao
  | _ => .error (.naoObjeto indice)

/-- `deserialize_rules`. An object is iterated by its names and a text by its characters, and
neither is a rule. -/
def deserializeRules : Valor → Except Erro (List RetentionRule)
  | .lista (item :: itens) => do
    let regras ← (item :: itens).zipIdx.mapM fun par => regraDeJson par.2 par.1
    match firstRepeated [] (regras.map RetentionRule.ruleId) with
    | some id => .error (.idRepetido id)
    | none => .ok regras
  | .objeto (_ :: _) => .error (.naoObjeto 0)
  | .texto (_ :: _) => .error (.naoObjeto 0)
  | _ => .error .payload

end Codec

end PiaOs.Memory
