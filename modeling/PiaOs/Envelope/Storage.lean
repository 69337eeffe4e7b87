import PiaOs.Envelope.Content

/-!
# Constraints and references in their columns

The two JSON columns of a step. A column gives back the value that it was given, with the members
of an object in an order of its own; the types of the columns check what they read, and what
they wrote passes.
-/

namespace PiaOs.Envelope

open Support Piap

/-! ## The columns -/

/-- `ContextRefsType.process_bind_param`. -/
def contextRefsBind (refs : List ContextRef) : Documento := .lista (refs.map ContextRef.asContent)

/-- `ConstraintsType.process_bind_param`. -/
def constraintsBind (pares : Pares) : Except Recusa Documento := do
  let canonicas ← canonicalConstraints (deTextos pares)
  return constraintsAsMapping canonicas

mutual

/-- What a JSON column may give back of a document. -/
inductive Devolvido : Documento → Valor → Prop
  | nulo : Devolvido .nulo .nulo
  | inteiro (n : ℤ) : Devolvido (.inteiro n) (.inteiro n)
  | texto (t : Texto) : Devolvido (.texto t) (.texto t)
  | lista {itens : List Documento} {valores : List Valor} (h : DevolvidosItens itens valores) :
    Devolvido (.lista itens) (.lista valores)
  | objeto {campos ordem : List (Texto × Documento)} {pares : List (Texto × Valor)}
    (hordem : ordem.Perm campos) (h : DevolvidosCampos ordem pares) :
    Devolvido (.objeto campos) (.objeto pares)

inductive DevolvidosItens : List Documento → List Valor → Prop
  | nil : DevolvidosItens [] []
  | cons {item : Documento} {valor : Valor} {itens : List Documento} {valores : List Valor}
    (hitem : Devolvido item valor) (hitens : DevolvidosItens itens valores) :
    DevolvidosItens (item :: itens) (valor :: valores)

inductive DevolvidosCampos : List (Texto × Documento) → List (Texto × Valor) → Prop
  | nil : DevolvidosCampos [] []
  | cons {chave : Texto} {item : Documento} {valor : Valor} {campos : List (Texto × Documento)}
    {pares : List (Texto × Valor)} (hitem : Devolvido item valor)
    (hcampos : DevolvidosCampos campos pares) :
    DevolvidosCampos ((chave, item) :: campos) ((chave, valor) :: pares)

end

/-- `build_envelope_content`, once the step was found: the columns are read and the constructor
checks the whole again. -/
def buildEnvelopeContent (f : ContentFields) (refs restricoes : Valor) :
    Except Recusa EnvelopeContent := do
  let contextRefs ← parseContextRefs refs
  let constraints ← canonicalConstraints restricoes
  EnvelopeContent.make { f with contextRefs := contextRefs, constraints := constraints }

/-! ## Objects of scalars -/

theorem exists_perm_map {α β : Type} {f : α → β} {l : List α} {m : List β}
    (h : m.Perm (l.map f)) : ∃ l' : List α, l'.Perm l ∧ m = l'.map f := by
  generalize hn : l.map f = n at h
  induction h generalizing l with
  | nil =>
    rw [List.map_eq_nil_iff] at hn
    exact ⟨[], by rw [hn], rfl⟩
  | cons x _ ih =>
    obtain ⟨a, rest, rfl, rfl, hrest⟩ := List.map_eq_cons_iff.mp hn
    obtain ⟨l', hperm, rfl⟩ := ih hrest
    exact ⟨a :: l', hperm.cons a, rfl⟩
  | swap x y t =>
    obtain ⟨a, rest, rfl, rfl, hrest⟩ := List.map_eq_cons_iff.mp hn
    obtain ⟨b, rest', rfl, rfl, rfl⟩ := List.map_eq_cons_iff.mp hrest
    exact ⟨b :: a :: rest', List.Perm.swap a b rest', rfl⟩
  | trans _ _ ih₁ ih₂ =>
    obtain ⟨l₂, hperm₂, hmap₂⟩ := ih₂ hn
    obtain ⟨l₁, hperm₁, hmap₁⟩ := ih₁ hmap₂.symm
    exact ⟨l₁, hperm₁.trans hperm₂, hmap₁⟩

/-- A number or a text. -/
def Escalar : Documento → Prop
  | .inteiro _ => True
  | .texto _ => True
  | _ => False

theorem valor_of_escalar {d : Documento} {v : Valor} (hd : Escalar d) (h : Devolvido d v) :
    v = d.valor := by
  cases h with
  | nulo => cases hd
  | inteiro n => rfl
  | texto t => rfl
  | lista h => cases hd
  | objeto hordem h => cases hd

theorem campos_of_escalares {campos : List (Texto × Documento)} {pares : List (Texto × Valor)}
    (hcampos : ∀ campo ∈ campos, Escalar campo.2) (h : DevolvidosCampos campos pares) :
    pares = campos.map fun campo => (campo.1, campo.2.valor) := by
  induction campos generalizing pares with
  | nil =>
    cases h
    rfl
  | cons campo campos ih =>
    obtain ⟨hfirst, hrest⟩ := List.forall_mem_cons.mp hcampos
    cases h with
    | cons hitem htail => rw [ih hrest htail, valor_of_escalar hfirst hitem, List.map_cons]

/-- An object of scalars comes back with its members in some order. -/
theorem objeto_of_escalares {campos : List (Texto × Documento)} {v : Valor}
    (hcampos : ∀ campo ∈ campos, Escalar campo.2) (h : Devolvido (.objeto campos) v) :
    ∃ ordem : List (Texto × Documento), ordem.Perm campos ∧
      v = .objeto (ordem.map fun campo => (campo.1, campo.2.valor)) := by
  cases h with
  | @objeto _ ordem pares hordem h =>
    have hscalars : ∀ campo ∈ ordem, Escalar campo.2 := fun campo hcampo =>
      hcampos campo (hordem.subset hcampo)
    exact ⟨ordem, hordem, by rw [campos_of_escalares hscalars h]⟩

/-! ## References -/

theorem lookup_of_mem {α β : Type} [BEq α] [LawfulBEq α] {l : List (α × β)} {a : α} {b : β}
    (hnodup : (l.map (·.1)).Nodup) (hmem : (a, b) ∈ l) : l.lookup a = some b := by
  induction l with
  | nil => cases hmem
  | cons par l ih =>
    obtain ⟨chave, valor⟩ := par
    obtain ⟨hfirst, hrest⟩ := List.nodup_cons.mp hnodup
    rw [List.lookup_cons]
    rcases List.mem_cons.mp hmem with hsame | hlater
    · obtain ⟨rfl, rfl⟩ := Prod.mk.inj hsame
      rw [beq_self_eq_true]
    · have hne : a ≠ chave := by
        rintro rfl
        exact hfirst (List.mem_map.mpr ⟨(a, b), hlater, rfl⟩)
      rw [beq_eq_false_iff_ne.mpr hne]
      exact ih hrest hlater

theorem contextRef_stated (r : ContextRef) : textoObrigatorio r.uri "uri" maxUriLength = none ∧
    casa sha256Pattern r.sha256 = true ∧ 0 ≤ r.bytes := by
  have hvalid := r.valida
  unfold ContextRefFields.violation at hvalid
  simp only [primeiraRecusa_eq_none, List.mem_cons, List.not_mem_nil, or_false, forall_eq_or_imp,
    forall_eq, quando_eq_none, Bool.not_eq_false', decide_eq_false_iff_not, not_lt] at hvalid
  exact hvalid

theorem contextRef_make (r : ContextRef) : ContextRef.make r.toContextRefFields = .ok r := by
  unfold ContextRef.make
  split
  · rfl
  · rename_i violacao hviolation
    rw [r.valida] at hviolation
    cases hviolation

/-- A reference is read back from the object that it writes. -/
theorem parseContextRef_devolvido {r : ContextRef} {v : Valor} (h : Devolvido r.asContent v) :
    parseContextRef v = .ok r := by
  have hscalars : ∀ campo ∈ [(Texto.of "bytes", Documento.inteiro r.bytes),
      (Texto.of "sha256", Documento.texto r.sha256), (Texto.of "uri", Documento.texto r.uri)],
      Escalar campo.2 := by
    simp [Escalar]
  obtain ⟨ordem, hperm, rfl⟩ := objeto_of_escalares hscalars h
  have hvalues := hperm.map fun campo => (campo.1, campo.2.valor)
  generalize hdados : (ordem.map fun campo => (campo.1, campo.2.valor)) = dados at hvalues ⊢
  have hkeys := hvalues.map (·.1)
  have hnodup : (dados.map (·.1)).Nodup := by
    have hdistinct : [Texto.of "bytes", Texto.of "sha256", Texto.of "uri"].Nodup := by
      decide +kernel
    exact hkeys.nodup_iff.mpr hdistinct
  have hfield {chave : Texto} {valor : Valor} (hmem : (chave, valor) ∈
      [(Texto.of "bytes", Valor.inteiro r.bytes), (Texto.of "sha256", Valor.texto r.sha256),
        (Texto.of "uri", Valor.texto r.uri)]) : (dados.lookup chave).getD .nulo = valor := by
    rw [lookup_of_mem hnodup (hvalues.symm.subset hmem), Option.getD_some]
  have hbytes : campo dados "bytes" = .inteiro r.bytes := hfield (by simp)
  have hsha : campo dados "sha256" = .texto r.sha256 := hfield (by simp)
  have huri : campo dados "uri" = .texto r.uri := hfield (by simp)
  have hnames : (contextRefFields ⊆ dados.map (·.1) && dados.map (·.1) ⊆ contextRefFields) =
      true := by
    have hmem (chave : Texto) : chave ∈ dados.map (·.1) ↔ chave ∈ contextRefFields := by
      rw [hkeys.mem_iff]
      simp only [contextRefFields, List.map_cons, List.map_nil, List.mem_cons, List.not_mem_nil,
        or_false]
      tauto
    simp only [Bool.and_eq_true, decide_eq_true_eq]
    exact ⟨fun chave hchave => (hmem chave).mpr hchave, fun chave hchave => (hmem chave).mp hchave⟩
  obtain ⟨hstated, hcasa, -⟩ := contextRef_stated r
  unfold parseContextRef
  simp only [hnames, hbytes, hsha, huri, hstated, hcasa, textoDe, inteiroDe, quando, exigir, bind,
    Except.bind, Bool.not_true, Bool.false_eq_true, if_false]
  exact contextRef_make r

/-- References are read back from their column. -/
theorem parseContextRefs_devolvido {refs : List ContextRef} {v : Valor}
    (h : Devolvido (contextRefsBind refs) v) : parseContextRefs v = .ok refs := by
  cases h with
  | @lista _ valores h =>
    have hread : ∀ {refs : List ContextRef} {valores : List Valor},
        DevolvidosItens (refs.map ContextRef.asContent) valores →
          valores.mapM parseContextRef = .ok refs := by
      intro refs
      induction refs with
      | nil =>
        intro valores h
        cases h
        rfl
      | cons r refs ih =>
        intro valores h
        cases h with
        | cons hitem hitens =>
          rw [List.mapM_cons, parseContextRef_devolvido hitem, ih hitens]
          rfl
    exact hread h

/-! ## Constraints -/

/-- What the constructor asks of the pairs of a content. -/
structure Admitidos (pares : Pares) : Prop where
  chaves : ∀ par ∈ pares, textoObrigatorio par.1 "constraint key" maxConstraintKeyLength = none
  valores : ∀ par ∈ pares, textoObrigatorio par.2 "constraint value" maxConstraintValueLength = none
  distintas : (pares.map (·.1)).Nodup
  gate : validateGateKeys (ordenados pares) = none

def textual (par : Texto × Texto) : Valor × Valor := (.texto par.1, .texto par.2)

theorem paresAdmitidos_cons {vistas : List Texto} {chave valor : Texto}
    {resto : List (Valor × Valor)} {out : Pares} :
    paresAdmitidos vistas ((.texto chave, .texto valor) :: resto) = .ok out ↔
      textoObrigatorio chave "constraint key" maxConstraintKeyLength = none ∧
        textoObrigatorio valor "constraint value" maxConstraintValueLength = none ∧
          chave ∉ vistas ∧ ∃ pares, paresAdmitidos (chave :: vistas) resto = .ok pares ∧
            out = (chave, valor) :: pares := by
  rw [paresAdmitidos]
  simp only [textoDe, bind_eq_ok, exigir_eq_ok, quando_eq_none, Except.ok.injEq, exists_eq_left',
    exists_and_left, exists_const, pure, Except.pure, decide_eq_false_iff_not]
  constructor
  · rintro ⟨hkey, hvalue, hnew, pares, hrest, rfl⟩
    exact ⟨hkey, hvalue, hnew, pares, hrest, rfl⟩
  · rintro ⟨hkey, hvalue, hnew, pares, hrest, rfl⟩
    exact ⟨hkey, hvalue, hnew, pares, hrest, rfl⟩

/-- The loop over the items returns them, once each was looked at. -/
theorem paresAdmitidos_eq_ok {vistas : List Texto} {pares out : Pares} :
    paresAdmitidos vistas (pares.map textual) = .ok out ↔
      (∀ par ∈ pares, textoObrigatorio par.1 "constraint key" maxConstraintKeyLength = none) ∧
        (∀ par ∈ pares,
          textoObrigatorio par.2 "constraint value" maxConstraintValueLength = none) ∧
        (pares.map (·.1)).Nodup ∧ (∀ par ∈ pares, par.1 ∉ vistas) ∧ out = pares := by
  induction pares generalizing vistas out with
  | nil =>
    unfold paresAdmitidos
    simp [eq_comm]
  | cons par pares ih =>
    obtain ⟨chave, valor⟩ := par
    rw [List.map_cons, textual, paresAdmitidos_cons]
    simp only [ih, List.forall_mem_cons, List.map_cons, List.nodup_cons]
    constructor
    · rintro ⟨hkey, hvalue, hnew, outros, ⟨hkeys, hvalues, hnodup, hfresh, rfl⟩, rfl⟩
      refine ⟨⟨hkey, hkeys⟩, ⟨hvalue, hvalues⟩, ⟨?_, hnodup⟩, ⟨hnew, ?_⟩, rfl⟩
      · intro hmem
        obtain ⟨outro, houtro, heq⟩ := List.mem_map.mp hmem
        exact hfresh outro houtro (heq ▸ List.mem_cons_self)
      · exact fun outro houtro hmem => hfresh outro houtro (List.mem_cons_of_mem _ hmem)
    · rintro ⟨⟨hkey, hkeys⟩, ⟨hvalue, hvalues⟩, ⟨hfirst, hnodup⟩, ⟨hnew, hfresh⟩, rfl⟩
      refine ⟨hkey, hvalue, hnew, pares, ⟨hkeys, hvalues, hnodup, ?_, rfl⟩, rfl⟩
      intro outro houtro hmem
      rcases List.mem_cons.mp hmem with heq | hmem
      · exact hfirst (List.mem_map.mpr ⟨outro, houtro, heq⟩)
      · exact hfresh outro houtro hmem

theorem itensDe_deTextos (pares : Pares) : itensDe (deTextos pares) = .ok (pares.map textual) := by
  unfold itensDe deTextos
  induction pares with
  | nil => rfl
  | cons par pares ih =>
    simp only [List.map_cons, List.mapM_cons] at ih ⊢
    rw [ih]
    rfl

theorem itensDe_objeto (pares : Pares) :
    itensDe (.objeto (pares.map fun par => (par.1, .texto par.2))) =
      .ok (pares.map textual) := by
  have hmap : (pares.map fun par => (par.1, Valor.texto par.2)).map
      (fun par => (Valor.texto par.1, par.2)) = pares.map textual := by
    rw [List.map_map]
    rfl
  exact congrArg Except.ok hmap

theorem canonicalConstraints_eq_ok {v : Valor} {pares out : Pares}
    (hitens : itensDe v = .ok (pares.map textual)) :
    canonicalConstraints v = .ok out ↔ Admitidos pares ∧ out = ordenados pares := by
  unfold canonicalConstraints
  rw [hitens]
  simp only [bind_eq_ok, exigir_eq_ok, Except.ok.injEq, exists_eq_left', paresAdmitidos_eq_ok,
    exists_and_left, exists_const, pure, Except.pure]
  constructor
  · rintro ⟨_, ⟨hkeys, hvalues, hnodup, -, rfl⟩, hgate, rfl⟩
    exact ⟨⟨hkeys, hvalues, hnodup, hgate⟩, rfl⟩
  · rintro ⟨⟨hkeys, hvalues, hnodup, hgate⟩, rfl⟩
    exact ⟨pares, ⟨hkeys, hvalues, hnodup, fun _ _ => List.not_mem_nil, rfl⟩, hgate, rfl⟩

theorem Admitidos.perm {pares outros : Pares} (h : Admitidos pares) (hperm : pares.Perm outros) :
    Admitidos outros ∧ ordenados outros = ordenados pares := by
  have hsame : ordenados outros = ordenados pares := (porChave_eq hperm h.distintas).symm
  refine ⟨⟨?_, ?_, ?_, ?_⟩, hsame⟩
  · exact fun par hpar => h.chaves par (hperm.symm.subset hpar)
  · exact fun par hpar => h.valores par (hperm.symm.subset hpar)
  · exact (hperm.map _).nodup_iff.mp h.distintas
  · rw [hsame]
    exact h.gate

/-- The constraints of a content are in order, and would be admitted again. -/
theorem admitidos_constraints (c : EnvelopeContent) :
    Admitidos c.constraints ∧ ordenados c.constraints = c.constraints := by
  obtain ⟨declaradas, hdeclared⟩ := c.canonicas
  obtain ⟨hadmitted, heq⟩ :=
    (canonicalConstraints_eq_ok (itensDe_deTextos declaradas)).mp hdeclared
  have hperm : declaradas.Perm c.constraints := by
    rw [heq]
    exact (perm_porChave declaradas).symm
  obtain ⟨hagain, hsame⟩ := hadmitted.perm hperm
  exact ⟨hagain, hsame.trans heq.symm⟩

theorem constraintsBind_eq (c : EnvelopeContent) :
    constraintsBind c.constraints = .ok (constraintsAsMapping c.constraints) := by
  obtain ⟨hadmitted, hordered⟩ := admitidos_constraints c
  have hcanonical : canonicalConstraints (deTextos c.constraints) = .ok c.constraints :=
    (canonicalConstraints_eq_ok (itensDe_deTextos _)).mpr ⟨hadmitted, hordered.symm⟩
  unfold constraintsBind
  rw [hcanonical]
  rfl

/-- Constraints are read back from their column. -/
theorem canonicalConstraints_devolvido {c : EnvelopeContent} {v : Valor}
    (h : Devolvido (constraintsAsMapping c.constraints) v) :
    canonicalConstraints v = .ok c.constraints := by
  have hscalars : ∀ campo ∈ c.constraints.map fun par => (par.1, Documento.texto par.2),
      Escalar campo.2 := List.forall_mem_map.mpr fun _ _ => trivial
  obtain ⟨ordem, hperm, rfl⟩ := objeto_of_escalares hscalars h
  obtain ⟨outros, houtros, rfl⟩ := exists_perm_map hperm
  have hread : itensDe (.objeto ((outros.map fun par => (par.1, Documento.texto par.2)).map
      fun campo => (campo.1, campo.2.valor))) = .ok (outros.map textual) := by
    rw [List.map_map]
    exact itensDe_objeto outros
  obtain ⟨hadmitted, hordered⟩ := admitidos_constraints c
  obtain ⟨hagain, hsame⟩ := hadmitted.perm houtros.symm
  exact (canonicalConstraints_eq_ok hread).mpr ⟨hagain, (hsame.trans hordered).symm⟩

/-! ## The content -/

/-- A content is built from declared fields when the texts pass and the constraints are
admitted. -/
theorem make_eq_ok {f : ContentFields} {c : EnvelopeContent} : EnvelopeContent.make f = .ok c ↔
    f.violation = none ∧ Admitidos f.constraints ∧
      c.toContentFields = { f with constraints := ordenados f.constraints } := by
  have hcanonical {pares : Pares} :
      canonicalConstraints (deTextos f.constraints) = .ok pares ↔
        Admitidos f.constraints ∧ pares = ordenados f.constraints :=
    canonicalConstraints_eq_ok (itensDe_deTextos f.constraints)
  unfold EnvelopeContent.make
  split
  · rename_i hviolation
    refine iff_of_false (fun h => by cases h) ?_
    rintro ⟨hnone, -⟩
    rw [hnone] at hviolation
    cases hviolation
  · rename_i r hviolation hrefused
    refine iff_of_false (fun h => by cases h) ?_
    rintro ⟨-, hadmitted, -⟩
    rw [hcanonical.mpr ⟨hadmitted, rfl⟩] at hrefused
    cases hrefused
  · rename_i pares hviolation hpares
    obtain ⟨hadmitted, rfl⟩ := hcanonical.mp hpares
    rw [Except.ok.injEq]
    constructor
    · rintro rfl
      exact ⟨hviolation, hadmitted, rfl⟩
    · rintro ⟨-, -, hfields⟩
      cases c
      simp only at hfields
      subst hfields
      rfl

/-- The columns of a content give the content back. -/
theorem buildEnvelopeContent_devolvido {c : EnvelopeContent} {refs restricoes : Valor}
    (hrefs : Devolvido (contextRefsBind c.contextRefs) refs)
    (hrestricoes : Devolvido (constraintsAsMapping c.constraints) restricoes) :
    buildEnvelopeContent c.toContentFields refs restricoes = .ok c := by
  obtain ⟨hadmitted, hordered⟩ := admitidos_constraints c
  have hmake : EnvelopeContent.make c.toContentFields = .ok c := by
    rw [make_eq_ok, hordered]
    exact ⟨c.valido, hadmitted, rfl⟩
  unfold buildEnvelopeContent
  rw [parseContextRefs_devolvido hrefs, canonicalConstraints_devolvido hrestricoes]
  exact hmake

end PiaOs.Envelope
