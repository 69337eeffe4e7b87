import PiaOs.Envelope.Storage

/-!
# The hash of a sealed content

Two contents that can be written as canonical JSON have one hash when their fields are the same,
up to the order in which the constraints were declared, and not otherwise, up to a collision. The
columns of the step give a content with the same hash back.
-/

namespace PiaOs.Envelope

open Support Piap

/-! ## The canonical mapping -/

theorem ContextRef.ext_fields {r r' : ContextRef}
    (h : r.toContextRefFields = r'.toContextRefFields) : r = r' := by
  cases r
  cases r'
  simp only at h
  subst h
  rfl

theorem asContent_injective : Function.Injective ContextRef.asContent := by
  intro r r' h
  have hfields := Documento.objeto.inj h
  simp only [List.map_cons, List.map_nil, List.cons.injEq, Prod.mk.injEq, Documento.inteiro.injEq,
    Documento.texto.injEq, true_and, and_true] at hfields
  obtain ⟨hbytes, hsha, huri⟩ := hfields
  apply ContextRef.ext_fields
  rw [ContextRefFields.mk.injEq]
  exact ⟨huri, hsha, hbytes⟩

/-- The mapping of a content determines its eight fields. -/
theorem asCanonicalMapping_injective {a b : EnvelopeContent}
    (h : a.asCanonicalMapping = b.asCanonicalMapping) : a.toContentFields = b.toContentFields := by
  have hfields := Documento.objeto.inj h
  simp only [List.map_cons, List.map_nil, List.cons.injEq, Prod.mk.injEq, Documento.texto.injEq,
    Documento.lista.injEq, true_and, and_true] at hfields
  obtain ⟨hconstraints, hrefs, hversion, hcontract, hinstruction, hrole, hschedule, hstep⟩ := hfields
  have hpair : Function.Injective fun par : Texto × Texto => (par.1, Documento.texto par.2) := by
    rintro ⟨k, v⟩ ⟨k', v'⟩ heq
    obtain ⟨hkey, htext⟩ := Prod.mk.inj heq
    exact Prod.ext hkey (Documento.texto.inj htext)
  rw [ContentFields.mk.injEq]
  exact ⟨hversion, uuid_injective (texto_of_injective (Documento.texto.inj hschedule)),
    uuid_injective (texto_of_injective (Documento.texto.inj hstep)), hrole, hinstruction,
    asContent_injective.list_map hrefs, hcontract,
    hpair.list_map (Documento.objeto.inj hconstraints)⟩

/-- The fields of a content can be written as canonical JSON. -/
structure Canonizavel (f : ContentFields) : Prop where
  envelopeVersion : f.envelopeVersion.Inteiro
  role : f.role.Inteiro
  instructionRef : f.instructionRef.Inteiro
  expectedOutputContract : f.expectedOutputContract.Inteiro
  uris : ∀ r ∈ f.contextRefs, r.uri.Inteiro
  bytes : ∀ r ∈ f.contextRefs, r.bytes.natAbs < 10 ^ intMaxStrDigits
  constraints : ∀ par ∈ f.constraints, par.1.Inteiro ∧ par.2.Inteiro

section Content

variable {c : EnvelopeContent}

theorem inteiro_asContent {r : ContextRef} : r.asContent.dumps.Inteiro ↔ r.uri.Inteiro := by
  obtain ⟨-, hsha, -⟩ := contextRef_stated r
  have hdigest := inteiro_texto.mpr (inteiro_of_casa hsha)
  unfold ContextRef.asContent
  rw [inteiro_campos]
  simp only [List.mem_cons, List.not_mem_nil, or_false, forall_eq_or_imp, forall_eq,
    inteiro_inteiro, hdigest, inteiro_texto, true_and]

theorem inteiro_content : c.asCanonicalMapping.dumps.Inteiro ↔
    (∀ par ∈ c.constraints, par.1.Inteiro ∧ par.2.Inteiro) ∧ (∀ r ∈ c.contextRefs, r.uri.Inteiro) ∧
      c.envelopeVersion.Inteiro ∧ c.expectedOutputContract.Inteiro ∧ c.instructionRef.Inteiro ∧
        c.role.Inteiro := by
  unfold EnvelopeContent.asCanonicalMapping constraintsAsMapping
  rw [inteiro_campos]
  simp only [List.mem_cons, List.not_mem_nil, or_false, forall_eq_or_imp, forall_eq, inteiro_objeto,
    inteiro_lista, List.forall_mem_map, inteiro_asContent, inteiro_texto, inteiro_ofString, and_true]

theorem cabe_content : c.asCanonicalMapping.cabe = true ↔
    ∀ r ∈ c.contextRefs, r.bytes.natAbs < 10 ^ intMaxStrDigits := by
  have htexto (t : Texto) : (Documento.texto t).cabe = true := by rw [Documento.cabe]
  have hstring (s : String) : (Documento.ofString s).cabe = true := htexto _
  have hconstraints : (constraintsAsMapping c.constraints).cabe = true :=
    cabe_objeto.mpr (List.forall_mem_map.mpr fun par _ => htexto par.2)
  have href (r : ContextRef) :
      r.asContent.cabe = true ↔ r.bytes.natAbs < 10 ^ intMaxStrDigits := by
    unfold ContextRef.asContent
    rw [cabe_campos]
    simp only [List.mem_cons, List.not_mem_nil, or_false, forall_eq_or_imp, forall_eq, cabe_inteiro,
      htexto, and_true]
  unfold EnvelopeContent.asCanonicalMapping
  rw [cabe_campos]
  simp only [List.mem_cons, List.not_mem_nil, or_false, forall_eq_or_imp, forall_eq, cabe_lista,
    List.forall_mem_map, href, htexto, hstring, hconstraints, and_true, true_and]

/-- Which contents have a hash. -/
theorem contentSha256_isSome : c.contentSha256.isSome = true ↔ Canonizavel c.toContentFields := by
  unfold EnvelopeContent.contentSha256
  rw [Documento.sha256_isSome, cabe_content, inteiro_content]
  constructor
  · rintro ⟨hbytes, hconstraints, huris, hversion, hcontract, hinstruction, hrole⟩
    exact ⟨hversion, hrole, hinstruction, hcontract, huris, hbytes, hconstraints⟩
  · rintro ⟨hversion, hrole, hinstruction, hcontract, huris, hbytes, hconstraints⟩
    exact ⟨hbytes, hconstraints, huris, hversion, hcontract, hinstruction, hrole⟩

/-- The mapping has three levels, and no name twice. -/
theorem legivel_content (h : Canonizavel c.toContentFields) : c.asCanonicalMapping.Legivel 3 := by
  have hrefs : (Documento.lista (c.contextRefs.map ContextRef.asContent)).Legivel 2 := by
    refine legivel_lista (List.forall_mem_map.mpr ?_)
    intro r hr
    have hbytes : (Documento.inteiro r.bytes).Legivel 0 := h.bytes r hr
    refine legivel_campos (by simp) ?_
    simp [hbytes, legivel_texto]
  have hconstraints : (constraintsAsMapping c.constraints).Legivel 2 := by
    refine legivel_objeto ?_ (List.forall_mem_map.mpr fun par _ => legivel_texto 1 par.2)
    rw [List.map_map]
    exact (admitidos_constraints c).1.distintas
  refine legivel_campos (by simp) ?_
  simp [hrefs, hconstraints, legivel_texto, legivel_ofString]

end Content

/-! ## Identity -/

/-- The eight fields are the same, the constraints in whatever order they were declared. -/
structure MesmoConteudo (f g : ContentFields) : Prop where
  envelopeVersion : f.envelopeVersion = g.envelopeVersion
  scheduleId : f.scheduleId = g.scheduleId
  stepId : f.stepId = g.stepId
  role : f.role = g.role
  instructionRef : f.instructionRef = g.instructionRef
  contextRefs : f.contextRefs = g.contextRefs
  expectedOutputContract : f.expectedOutputContract = g.expectedOutputContract
  constraints : f.constraints.Perm g.constraints

/-- Contents are the same when what they were declared with is. -/
theorem fields_eq_iff {f g : ContentFields} {a b : EnvelopeContent}
    (ha : EnvelopeContent.make f = .ok a) (hb : EnvelopeContent.make g = .ok b) :
    a.toContentFields = b.toContentFields ↔ MesmoConteudo f g := by
  obtain ⟨-, hadmitted, hfields⟩ := make_eq_ok.mp ha
  obtain ⟨-, -, hfields'⟩ := make_eq_ok.mp hb
  rw [hfields, hfields', ContentFields.mk.injEq]
  constructor
  · rintro ⟨hversion, hschedule, hstep, hrole, hinstruction, hrefs, hcontract, hconstraints⟩
    exact ⟨hversion, hschedule, hstep, hrole, hinstruction, hrefs, hcontract,
      perm_of_porChave_eq hconstraints⟩
  · rintro ⟨hversion, hschedule, hstep, hrole, hinstruction, hrefs, hcontract, hconstraints⟩
    exact ⟨hversion, hschedule, hstep, hrole, hinstruction, hrefs, hcontract,
      porChave_eq hconstraints hadmitted.distintas⟩

/-- The hashes of two contents exist and identify them, and the columns of the first give its hash
back. -/
structure Identifica (a b : EnvelopeContent) : Prop where
  calcula : a.contentSha256.isSome = true ∧ b.contentSha256.isSome = true
  iguais : ∀ f g, EnvelopeContent.make f = .ok a → EnvelopeContent.make g = .ok b →
    MesmoConteudo f g → a.contentSha256 = b.contentSha256
  distintos : ∀ f g, EnvelopeContent.make f = .ok a → EnvelopeContent.make g = .ok b →
    a.contentSha256 = b.contentSha256 →
      MesmoConteudo f g ∨ a.asCanonicalMapping.Colide b.asCanonicalMapping
  guardado : ∃ restricoes, constraintsBind a.constraints = .ok restricoes ∧
    ∀ v w, Devolvido (contextRefsBind a.contextRefs) v → Devolvido restricoes w →
      ∃ c, buildEnvelopeContent a.toContentFields v w = .ok c ∧ c.contentSha256 = a.contentSha256

/-- Sealed contents are identified by their hashes when they can be written as canonical JSON, and
have no hash otherwise. -/
theorem sealed_content_identity (a b : EnvelopeContent) :
    Identifica a b ↔ Canonizavel a.toContentFields ∧ Canonizavel b.toContentFields := by
  constructor
  · intro h
    exact ⟨contentSha256_isSome.mp h.calcula.1, contentSha256_isSome.mp h.calcula.2⟩
  · rintro ⟨ha, hb⟩
    refine ⟨⟨contentSha256_isSome.mpr ha, contentSha256_isSome.mpr hb⟩, ?_, ?_, ?_⟩
    · intro f g hf hg hsame
      have hfields := (fields_eq_iff hf hg).mpr hsame
      have hmapping : a.asCanonicalMapping = b.asCanonicalMapping := by
        unfold EnvelopeContent.asCanonicalMapping
        rw [hfields]
      unfold EnvelopeContent.contentSha256
      rw [hmapping]
    · intro f g hf hg hhash
      obtain ⟨x, hx⟩ := Option.isSome_iff_exists.mp (contentSha256_isSome.mpr ha)
      have hx' : b.asCanonicalMapping.sha256 = some x := hhash.symm.trans hx
      refine (Documento.sha256_eq (legivel_content ha) (legivel_content hb) hx hx').imp_left ?_
      intro hmapping
      exact (fields_eq_iff hf hg).mp (asCanonicalMapping_injective hmapping)
    · refine ⟨_, constraintsBind_eq a, fun v w hv hw => ⟨a, ?_, rfl⟩⟩
      exact buildEnvelopeContent_devolvido hv hw

/-- A content whose role is half of a surrogate pair. -/
def conteudoSurrogado : EnvelopeContent where
  envelopeVersion := Texto.of "1"
  scheduleId := 1
  stepId := 2
  role := [.surrogate 0]
  instructionRef := Texto.of "instruction"
  contextRefs := []
  expectedOutputContract := Texto.of "contract"
  constraints := []
  valido := by decide +kernel
  canonicas := ⟨[], rfl⟩

/-- The constructor takes it, and there is no hash. -/
theorem conteudoSurrogado_sem_hash :
    conteudoSurrogado.contentSha256 = none ∧ ¬∀ a b : EnvelopeContent, Identifica a b := by
  have hnone : ¬conteudoSurrogado.contentSha256.isSome = true := by
    rw [contentSha256_isSome]
    intro h
    exact absurd (h.role (.surrogate 0) (by decide)) (by decide)
  refine ⟨by simpa using hnone, fun hall => hnone ?_⟩
  exact (hall conteudoSurrogado conteudoSurrogado).calcula.1

end PiaOs.Envelope
