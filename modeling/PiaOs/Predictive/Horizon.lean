import PiaOs.Predictive.Evaluation

/-!
# The horizon spectrum

Evaluated horizons are put in order. The admissible ones that follow each other from the least
evaluated horizon are its continuous part, and the admissible ones that are not in it remain.
-/

namespace PiaOs.Predictive

open Support

/-! ## Sorting by a key -/

/-- A sort by a key keeps the order of what has one key. -/
theorem filter_insertionSort {α : Type} (key : α → ℤ) (k : ℤ) (l : List α) :
    (l.insertionSort fun a b => key a ≤ key b).filter (fun a => key a = k) =
      l.filter fun a => key a = k := by
  have hkey : (l.filter fun a => key a = k).Pairwise fun a b => key a ≤ key b := by
    refine List.pairwise_of_forall_mem_list fun a ha b hb => ?_
    have hka : key a = k := by simpa using (List.mem_filter.mp ha).2
    have hkb : key b = k := by simpa using (List.mem_filter.mp hb).2
    omega
  have hsub := List.sublist_insertionSort hkey List.filter_sublist
  have hfilter := hsub.filter fun a => key a = k
  rw [List.filter_filter] at hfilter
  simp only [Bool.and_self] at hfilter
  refine (hfilter.eq_of_length ?_).symm
  exact (((List.perm_insertionSort _ l).filter _).length_eq).symm

/-! ## Points -/

/-- A horizon that was evaluated. -/
structure PredictiveHorizonPoint where
  horizon : { n : ℤ // 1 ≤ n }
  aMinus : Double
  gatesPass : Bool
  regime : PredictiveRegimeStatus
  deriving DecidableEq

namespace PredictiveHorizonPoint

/-- The number of a horizon. -/
def at_ (p : PredictiveHorizonPoint) : ℤ := p.horizon.val

def admissible (p : PredictiveHorizonPoint) : Bool := p.aMinus.isAfter 0 && p.gatesPass

end PredictiveHorizonPoint

@[ext]
structure PredictiveHorizonSpectrum where
  hPred : List PredictiveHorizonPoint
  deltaCont : List PredictiveHorizonPoint
  rPred : List PredictiveHorizonPoint
  particiona : deltaCont.length + rPred.length = hPred.length

/-- The loop that stops at the first point that is not admissible or not the expected one. -/
def prefixoContinuo : ℤ → List PredictiveHorizonPoint → List PredictiveHorizonPoint
  | _, [] => []
  | esperado, p :: ps =>
    if p.admissible && p.at_ = esperado then p :: prefixoContinuo (esperado + 1) ps else []

/-- `sorted(points, key=lambda p: p.horizon)`. -/
def ordenados (points : List PredictiveHorizonPoint) : List PredictiveHorizonPoint :=
  points.insertionSort fun p q => p.at_ ≤ q.at_

/-- `predictive_horizon_spectrum`. -/
def predictiveHorizonSpectrum (points : List PredictiveHorizonPoint) :
    Except Erro PredictiveHorizonSpectrum :=
  match ordenados points with
  | [] => .error (.incompleto "espectro exige ao menos um horizonte avaliado")
  | primeiro :: outros =>
    let hPred := (primeiro :: outros).filter (·.admissible)
    let deltaCont := prefixoContinuo primeiro.at_ (primeiro :: outros)
    let rPred := hPred.filter fun p => p ∉ deltaCont
    if h : deltaCont.length + rPred.length = hPred.length then .ok ⟨hPred, deltaCont, rPred, h⟩
    else .error (.incompleto "delta_cont e r_pred devem particionar h_pred")

/-! ## What a spectrum is for -/

/-- Some point of the horizon is admissible. -/
def Admissivel (points : List PredictiveHorizonPoint) (h : ℤ) : Prop :=
  ∃ p ∈ points, p.admissible = true ∧ p.at_ = h

/-- The least horizon that was evaluated. -/
def Menor (points : List PredictiveHorizonPoint) (m : ℤ) : Prop :=
  (∃ p ∈ points, p.at_ = m) ∧ ∀ p ∈ points, m ≤ p.at_

/-- The horizons from `m` to `h` are all admissible. -/
def Corrida (points : List PredictiveHorizonPoint) (m h : ℤ) : Prop :=
  m ≤ h ∧ ∀ k, m ≤ k → k ≤ h → Admissivel points k

/-- The longest run of consecutive admissible horizons that begins at the least one. -/
def MaiorCorrida (points : List PredictiveHorizonPoint) (hs : List ℤ) : Prop :=
  ∃ m, Menor points m ∧ hs = (List.range hs.length).map (fun i : ℕ => m + i) ∧
    (∀ h ∈ hs, Admissivel points h) ∧ ¬Admissivel points (m + hs.length)

/-- There is one spectrum, whatever the order of the points. It contains the admissible points,
each as often as they do, and its continuous part is the longest run. -/
def Fiel (points : List PredictiveHorizonPoint) : Prop :=
  ∃ s, predictiveHorizonSpectrum points = .ok s ∧
    (∀ points', points'.Perm points → predictiveHorizonSpectrum points' = .ok s) ∧
    (s.deltaCont ++ s.rPred).Perm (points.filter (·.admissible)) ∧
    MaiorCorrida points (s.deltaCont.map (·.at_))

/-- No horizon of the run was evaluated twice, and two admissible points of one horizon are one. -/
structure SemRepeticao (points : List PredictiveHorizonPoint) : Prop where
  unico : ∀ m h, Menor points m → Corrida points m h →
    (points.filter fun p => p.at_ = h).length = 1
  iguais : ∀ p ∈ points, ∀ q ∈ points, p.admissible = true → q.admissible = true →
    p.at_ = q.at_ → p = q

/-! ## The loop -/

variable {points l : List PredictiveHorizonPoint} {e m h : ℤ}

theorem perm_ordenados (points : List PredictiveHorizonPoint) : (ordenados points).Perm points :=
  List.perm_insertionSort _ _

theorem pairwise_ordenados (points : List PredictiveHorizonPoint) :
    (ordenados points).Pairwise fun p q => p.at_ ≤ q.at_ := by
  have htotal : Std.Total fun p q : PredictiveHorizonPoint => p.at_ ≤ q.at_ :=
    ⟨fun p q => le_total _ _⟩
  have htrans : IsTrans PredictiveHorizonPoint fun p q => p.at_ ≤ q.at_ :=
    ⟨fun p q r => le_trans⟩
  exact List.pairwise_insertionSort _ _

theorem prefixo_sublist (e : ℤ) (l : List PredictiveHorizonPoint) : (prefixoContinuo e l).Sublist l := by
  induction l generalizing e with
  | nil => exact List.Sublist.refl _
  | cons p ps ih =>
    rw [prefixoContinuo]
    split
    case isTrue => exact (ih _).cons_cons p
    case isFalse => exact List.nil_sublist _

/-- The horizons of the prefix follow each other, and its points are admissible. -/
theorem prefixo_horizons (e : ℤ) (l : List PredictiveHorizonPoint) :
    (prefixoContinuo e l).map (·.at_) =
        (List.range (prefixoContinuo e l).length).map (fun i : ℕ => e + i) ∧
      ∀ p ∈ prefixoContinuo e l, p.admissible = true ∧ e ≤ p.at_ := by
  induction l generalizing e with
  | nil => simp [prefixoContinuo]
  | cons p ps ih =>
    rw [prefixoContinuo]
    split
    case isFalse => simp
    case isTrue hp =>
      simp only [Bool.and_eq_true, decide_eq_true_eq] at hp
      obtain ⟨hadm, hat⟩ := hp
      obtain ⟨hmap, hall⟩ := ih (e + 1)
      refine ⟨?_, ?_⟩
      · rw [List.map_cons, hmap, List.length_cons, List.range_succ_eq_map, List.map_cons,
          List.map_map]
        refine congrArg₂ _ (by simp [hat]) (List.map_congr_left fun i _ => ?_)
        simp only [Function.comp_apply, Nat.cast_succ]
        omega
      · refine List.forall_mem_cons.mpr ⟨⟨hadm, by omega⟩, fun q hq => ?_⟩
        have hq' := hall q hq
        exact ⟨hq'.1, by omega⟩

/-- A point of the prefix is the first of its horizon. -/
theorem find?_of_mem_prefixo {d : PredictiveHorizonPoint} (hd : d ∈ prefixoContinuo e l) :
    l.find? (fun p => p.at_ = d.at_) = some d := by
  induction l generalizing e with
  | nil => simp [prefixoContinuo] at hd
  | cons p ps ih =>
    rw [prefixoContinuo] at hd
    split at hd
    case isFalse => cases hd
    case isTrue hp =>
      simp only [Bool.and_eq_true, decide_eq_true_eq] at hp
      rcases List.mem_cons.mp hd with rfl | hd
      · simp
      · have hlater := ((prefixo_horizons (e + 1) ps).2 d hd).2
        have hne : p.at_ ≠ d.at_ := by omega
        rw [List.find?_cons_of_neg (by simpa using hne)]
        exact ih hd

/-- What a filter of one element contains. -/
theorem eq_of_length_one {α : Type} {p : α → Bool} {l : List α} (hone : (l.filter p).length = 1)
    {a b : α} (ha : a ∈ l) (hpa : p a = true) (hb : b ∈ l) (hpb : p b = true) : a = b := by
  obtain ⟨c, hc⟩ := List.length_eq_one_iff.mp hone
  have hain : a ∈ l.filter p := List.mem_filter.mpr ⟨ha, hpa⟩
  have hbin : b ∈ l.filter p := List.mem_filter.mpr ⟨hb, hpb⟩
  rw [hc, List.mem_singleton] at hain hbin
  rw [hain, hbin]

theorem corrida_cons {p : PredictiveHorizonPoint} (hp : p.admissible = true) (hat : p.at_ = e) :
    Corrida (p :: l) e h ↔ e ≤ h ∧ (h = e ∨ Corrida l (e + 1) h) := by
  constructor
  · rintro ⟨hle, hall⟩
    refine ⟨hle, or_iff_not_imp_left.mpr fun hne => ⟨by omega, fun k hk hkh => ?_⟩⟩
    obtain ⟨q, hq, hadm, hqk⟩ := hall k (by omega) hkh
    rcases List.mem_cons.mp hq with rfl | hq
    · omega
    · exact ⟨q, hq, hadm, hqk⟩
  · rintro ⟨hle, hcase⟩
    refine ⟨hle, fun k hk hkh => ?_⟩
    by_cases hke : k = e
    · exact ⟨p, List.mem_cons_self, hp, hat.trans hke.symm⟩
    · rcases hcase with rfl | hcorrida
      · omega
      · obtain ⟨q, hq, hadm, hqk⟩ := hcorrida.2 k (by omega) hkh
        exact ⟨q, List.mem_cons_of_mem p hq, hadm, hqk⟩

/-- Without repetitions the prefix is what lies in the run, and it is as long as the run. -/
theorem prefixo_spec (hsorted : l.Pairwise fun p q => p.at_ ≤ q.at_) (hleast : ∀ p ∈ l, e ≤ p.at_)
    (hunico : ∀ h, Corrida l e h → (l.filter fun p => p.at_ = h).length = 1) :
    (prefixoContinuo e l = l.filter fun p =>
        p.admissible && decide (p.at_ < e + (prefixoContinuo e l).length)) ∧
      ∀ h, Corrida l e h ↔ e ≤ h ∧ h < e + (prefixoContinuo e l).length := by
  induction l generalizing e with
  | nil =>
    refine ⟨rfl, fun h => ⟨fun hrun => ?_, fun hrange => ?_⟩⟩
    · obtain ⟨p, hp, -⟩ := hrun.2 e le_rfl hrun.1
      cases hp
    · simp only [prefixoContinuo, List.length_nil, Nat.cast_zero] at hrange
      omega
  | cons p ps ih =>
    obtain ⟨hfirst, hrest⟩ := List.pairwise_cons.mp hsorted
    have hp := hleast p List.mem_cons_self
    rw [prefixoContinuo]
    split
    case isTrue hnext =>
      simp only [Bool.and_eq_true, decide_eq_true_eq] at hnext
      obtain ⟨hadm, hat⟩ := hnext
      have hone : ((p :: ps).filter fun q => q.at_ = e).length = 1 :=
        hunico e ((corrida_cons hadm hat).mpr ⟨le_rfl, .inl rfl⟩)
      have hlater : ∀ q ∈ ps, e + 1 ≤ q.at_ := by
        intro q hq
        have hle := hleast q (List.mem_cons_of_mem p hq)
        have hne : q.at_ ≠ e := by
          intro heq
          rw [List.filter_cons_of_pos (by simpa using hat), List.length_cons] at hone
          have hempty := List.eq_nil_of_length_eq_zero (Nat.succ.inj hone)
          have hin : q ∈ ps.filter fun q => q.at_ = e := List.mem_filter.mpr ⟨hq, by simpa using heq⟩
          rw [hempty] at hin
          cases hin
        omega
      obtain ⟨hcomum, hrun⟩ := ih hrest hlater (fun k hk => by
        have hk' := hunico k ((corrida_cons hadm hat).mpr ⟨by have := hk.1; omega, .inr hk⟩)
        have hne : p.at_ ≠ k := by
          have := hk.1
          omega
        rwa [List.filter_cons_of_neg (by simpa using hne)] at hk')
      refine ⟨?_, fun h => ?_⟩
      · rw [List.length_cons, List.filter_cons_of_pos (by simp [hadm, hat])]
        refine congrArg (p :: ·) (hcomum.trans (List.filter_congr fun q _ => ?_))
        have hsum : e + 1 + ((prefixoContinuo (e + 1) ps).length : ℤ) =
            e + ((prefixoContinuo (e + 1) ps).length + 1 : ℕ) := by
          rw [Nat.cast_succ]
          omega
        rw [hsum]
      · rw [corrida_cons hadm hat, hrun, List.length_cons, Nat.cast_succ]
        omega
    case isFalse hnext =>
      have hnone : ∀ h, ¬Corrida (p :: ps) e h := by
        intro h hrun
        obtain ⟨q, hq, hadm, hqe⟩ := hrun.2 e le_rfl hrun.1
        have hpe : p.at_ = e := by
          rcases List.mem_cons.mp hq with rfl | hq
          · exact hqe
          · have := hfirst q hq
            omega
        have hone := hunico e ⟨le_rfl, fun k hk hke => ⟨q, hq, hadm, by omega⟩⟩
        have hsame : p = q := eq_of_length_one hone List.mem_cons_self (by simpa using hpe) hq
          (by simpa using hqe)
        subst hsame
        exact hnext (by simp [hadm, hqe])
      refine ⟨?_, fun h => ⟨fun hrun => absurd hrun (hnone h), fun hrange => ?_⟩⟩
      · refine (List.filter_eq_nil_iff.mpr fun q hq => ?_).symm
        have hle := hleast q hq
        simp only [List.length_nil, Nat.cast_zero, Bool.and_eq_true, decide_eq_true_eq, not_and]
        intro _
        omega
      · simp only [List.length_nil, Nat.cast_zero] at hrange
        omega

/-! ## The spectrum -/

theorem menor_unique {m' : ℤ} (hm : Menor points m) (hm' : Menor points m') : m = m' := by
  obtain ⟨⟨p, hp, hat⟩, hleast⟩ := hm
  obtain ⟨⟨q, hq, hat'⟩, hleast'⟩ := hm'
  have hle := hleast q hq
  have hle' := hleast' p hp
  omega

theorem menor_ordenados {p : PredictiveHorizonPoint} {ps : List PredictiveHorizonPoint}
    (h : ordenados points = p :: ps) : Menor points p.at_ := by
  have hsorted := pairwise_ordenados points
  have hmem := fun q => (perm_ordenados points).mem_iff (a := q)
  rw [h] at hsorted hmem
  refine ⟨⟨p, (hmem p).mp List.mem_cons_self, rfl⟩, fun q hq => ?_⟩
  rcases List.mem_cons.mp ((hmem q).mpr hq) with rfl | hq
  · exact le_rfl
  · exact (List.pairwise_cons.mp hsorted).1 q hq

/-- What a spectrum consists of. -/
theorem spectrum_eq_ok (hm : Menor points m) {s : PredictiveHorizonSpectrum} :
    predictiveHorizonSpectrum points = .ok s ↔
      s.hPred = (ordenados points).filter (·.admissible) ∧
        s.deltaCont = prefixoContinuo m (ordenados points) ∧
          s.rPred = s.hPred.filter fun p => p ∉ s.deltaCont := by
  unfold predictiveHorizonSpectrum
  split
  case h_1 hnil =>
    obtain ⟨⟨p, hp, -⟩, -⟩ := hm
    have hin := (perm_ordenados points).mem_iff.mpr hp
    rw [hnil] at hin
    cases hin
  case h_2 p ps hcons =>
    obtain rfl := menor_unique hm (menor_ordenados hcons)
    rw [hcons]
    simp only
    constructor
    · intro h
      split at h
      case isTrue =>
        obtain rfl := Except.ok.inj h
        exact ⟨rfl, rfl, rfl⟩
      case isFalse => cases h
    · obtain ⟨hPred, deltaCont, rPred, hlength⟩ := s
      rintro ⟨hadm, hdelta, hrest⟩
      simp only at hadm hdelta hrest
      subst hadm hdelta
      rw [dif_pos (hrest ▸ hlength)]
      exact congrArg Except.ok (PredictiveHorizonSpectrum.ext rfl rfl hrest.symm)

variable {points' : List PredictiveHorizonPoint}

theorem Menor.perm (hm : Menor points m) (h : points'.Perm points) : Menor points' m := by
  obtain ⟨⟨p, hp, hat⟩, hleast⟩ := hm
  exact ⟨⟨p, h.mem_iff.mpr hp, hat⟩, fun q hq => hleast q (h.mem_iff.mp hq)⟩

theorem admissivel_perm (hperm : points'.Perm points) : Admissivel points' h ↔ Admissivel points h := by
  simp only [Admissivel, hperm.mem_iff]

theorem corrida_perm (hperm : points'.Perm points) :
    Corrida points' m h ↔ Corrida points m h := by
  simp only [Corrida, admissivel_perm hperm]

theorem SemRepeticao.perm (hsem : SemRepeticao points) (h : points'.Perm points) :
    SemRepeticao points' where
  unico := by
    intro m k hm hrun
    rw [(h.filter _).length_eq]
    exact hsem.unico m k (hm.perm h.symm) ((corrida_perm h).mp hrun)
  iguais := fun p hp q hq => hsem.iguais p (h.mem_iff.mp hp) q (h.mem_iff.mp hq)

/-- The admissible points in order do not depend on the order in which they came. -/
theorem SemRepeticao.hPred_eq (hsem : SemRepeticao points) (h : points'.Perm points) :
    (ordenados points').filter (·.admissible) = (ordenados points).filter (·.admissible) := by
  have hperm : (ordenados points').Perm (ordenados points) :=
    (perm_ordenados points').trans (h.trans (perm_ordenados points).symm)
  refine List.Perm.eq_of_pairwise ?_ ((pairwise_ordenados points').filter _)
    ((pairwise_ordenados points).filter _) (hperm.filter _)
  intro p q hp hq hle hge
  obtain ⟨hp, hadm⟩ := List.mem_filter.mp hp
  obtain ⟨hq, hadm'⟩ := List.mem_filter.mp hq
  exact hsem.iguais p (h.mem_iff.mp ((perm_ordenados points').mem_iff.mp hp)) q
    ((perm_ordenados points).mem_iff.mp hq) hadm hadm' (le_antisymm hle hge)

/-- The continuous part is what of the admissible points lies in the run. -/
theorem SemRepeticao.delta (hsem : SemRepeticao points) (hm : Menor points m) :
    (prefixoContinuo m (ordenados points) = ((ordenados points).filter (·.admissible)).filter
        fun p => p.at_ < m + (prefixoContinuo m (ordenados points)).length) ∧
      ∀ h, Corrida points m h ↔
        m ≤ h ∧ h < m + (prefixoContinuo m (ordenados points)).length := by
  have hperm := perm_ordenados points
  have hmenor := hm.perm hperm
  obtain ⟨hcomum, hrun⟩ := prefixo_spec (pairwise_ordenados points) hmenor.2
    fun h => (hsem.perm hperm).unico m h hmenor
  refine ⟨?_, fun h => (corrida_perm hperm).symm.trans (hrun h)⟩
  rw [List.filter_filter]
  refine hcomum.trans (List.filter_congr fun p _ => Bool.and_comm _ _)

/-- What is left of the admissible points is what lies beyond the run. -/
theorem SemRepeticao.resto (hsem : SemRepeticao points) (hm : Menor points m) :
    ((ordenados points).filter (·.admissible)).filter
        (fun p => p ∉ prefixoContinuo m (ordenados points)) =
      ((ordenados points).filter (·.admissible)).filter
        fun p => !decide (p.at_ < m + (prefixoContinuo m (ordenados points)).length) := by
  obtain ⟨hdelta, -⟩ := hsem.delta hm
  refine List.filter_congr fun p hp => ?_
  have hin : p ∈ prefixoContinuo m (ordenados points) ↔
      p.at_ < m + (prefixoContinuo m (ordenados points)).length := by
    conv_lhs => rw [hdelta]
    rw [List.mem_filter, decide_eq_true_eq]
    exact and_iff_right hp
  rw [decide_not, decide_eq_decide.mpr hin]

theorem exists_menor (hne : points ≠ []) : ∃ m, Menor points m := by
  cases hcons : ordenados points with
  | nil =>
    have hempty := (perm_ordenados points).symm
    rw [hcons] at hempty
    exact absurd hempty.eq_nil hne
  | cons p ps => exact ⟨_, menor_ordenados hcons⟩

/-- Without repetitions the spectrum is faithful. -/
theorem SemRepeticao.fiel (hsem : SemRepeticao points) (hne : points ≠ []) : Fiel points := by
  obtain ⟨m, hm⟩ := exists_menor hne
  obtain ⟨hdelta, hrun⟩ := hsem.delta hm
  have hrest := hsem.resto hm
  let hPred := (ordenados points).filter (·.admissible)
  let fora (p : PredictiveHorizonPoint) : Bool :=
    p.at_ < m + (prefixoContinuo m (ordenados points)).length
  have hlength : (prefixoContinuo m (ordenados points)).length +
      (hPred.filter fun p => p ∉ prefixoContinuo m (ordenados points)).length = hPred.length := by
    rw [hrest]
    conv_lhs => enter [1]; rw [hdelta]
    rw [← List.length_append]
    exact (List.filter_append_perm fora hPred).length_eq
  refine ⟨⟨hPred, _, _, hlength⟩, (spectrum_eq_ok hm).mpr ⟨rfl, rfl, rfl⟩, ?_, ?_, ?_⟩
  · intro points' hperm
    have hm' := hm.perm hperm
    have hsem' := hsem.perm hperm
    obtain ⟨hdelta', hrun'⟩ := hsem'.delta hm'
    have hpred := hsem.hPred_eq hperm
    have hlen : (prefixoContinuo m (ordenados points')).length =
        (prefixoContinuo m (ordenados points)).length := by
      have hsame : ∀ k, (m ≤ k ∧ k < m + (prefixoContinuo m (ordenados points')).length) ↔
          m ≤ k ∧ k < m + (prefixoContinuo m (ordenados points)).length :=
        fun k => (hrun' k).symm.trans ((corrida_perm hperm).trans (hrun k))
      have hone := hsame (m + (prefixoContinuo m (ordenados points')).length)
      have htwo := hsame (m + (prefixoContinuo m (ordenados points)).length)
      omega
    have hcomum : prefixoContinuo m (ordenados points) = prefixoContinuo m (ordenados points') := by
      rw [hdelta, hdelta', hpred, hlen]
    exact (spectrum_eq_ok hm').mpr ⟨hpred.symm, hcomum, rfl⟩
  · simp only
    have hparts := List.filter_append_perm fora hPred
    rw [hrest]
    conv_lhs => enter [1]; rw [hdelta]
    exact hparts.trans ((perm_ordenados points).filter _)
  · obtain ⟨hmap, hall⟩ := prefixo_horizons m (ordenados points)
    refine ⟨m, hm, by simpa using hmap, ?_, ?_⟩
    · intro k hk
      obtain ⟨p, hp, rfl⟩ := List.mem_map.mp hk
      exact ⟨p, (perm_ordenados points).mem_iff.mp ((prefixo_sublist m _).subset hp),
        (hall p hp).1, rfl⟩
    · rw [List.length_map]
      intro hnext
      have hlonger := hrun (m + (prefixoContinuo m (ordenados points)).length)
      have hcorrida : Corrida points m (m + (prefixoContinuo m (ordenados points)).length) := by
        refine ⟨by omega, fun k hk hkn => ?_⟩
        by_cases hlast : k = m + (prefixoContinuo m (ordenados points)).length
        · exact hlast ▸ hnext
        · exact ((hrun k).mpr ⟨hk, by omega⟩).2 k hk le_rfl
      have hrange := hlonger.mp hcorrida
      omega

/-! ## The converse -/

/-- The order in which a point comes first. -/
theorem perm_first {p : PredictiveHorizonPoint} (hp : p ∈ points) :
    (p :: points.erase p).Perm points := (List.perm_cons_erase hp).symm

theorem find?_ordenados_first {p : PredictiveHorizonPoint} (q : PredictiveHorizonPoint)
    (hq : q.at_ = p.at_) (l : List PredictiveHorizonPoint) :
    (ordenados (p :: l)).find? (fun x => x.at_ = q.at_) = some p := by
  rw [← List.head?_filter, ordenados, filter_insertionSort, hq]
  simp

/-- A faithful spectrum repeats no admissible horizon. -/
theorem Fiel.iguais (hfiel : Fiel points) {p q : PredictiveHorizonPoint} (hp : p ∈ points)
    (hq : q ∈ points) (hadm : p.admissible = true) (hadm' : q.admissible = true)
    (hat : p.at_ = q.at_) : p = q := by
  obtain ⟨s, -, hall, -, -⟩ := hfiel
  obtain ⟨m, hm⟩ := exists_menor (List.ne_nil_of_mem hp)
  have hfirst : ∀ x ∈ points, x.admissible = true → x.at_ = p.at_ →
      (s.hPred.filter fun y => y.at_ = p.at_).head? = some x := by
    intro x hx hadmx hatx
    have hperm := perm_first hx
    obtain ⟨hpred, -, -⟩ := (spectrum_eq_ok (hm.perm hperm)).mp (hall _ hperm)
    rw [hpred, List.filter_comm, ordenados, filter_insertionSort]
    simp [hatx, hadmx]
  exact Option.some.inj ((hfirst p hp hadm rfl).symm.trans (hfirst q hq hadm' hat.symm))

/-- A horizon of the run of a faithful spectrum was evaluated once. -/
theorem Fiel.unico (hfiel : Fiel points) (hm : Menor points m) (hrun : Corrida points m h) :
    (points.filter fun p => p.at_ = h).length = 1 := by
  obtain ⟨s, hs, hall, hperm, m', hm', hmap, hadm, hend⟩ := hfiel
  obtain rfl := menor_unique hm hm'
  obtain ⟨-, hdelta, hrest⟩ := (spectrum_eq_ok hm).mp hs
  -- the continuous part has a point of the horizon
  have hin : h ∈ s.deltaCont.map (·.at_) := by
    have hshort : h < m + (s.deltaCont.map (·.at_)).length := by
      by_contra hlong
      exact hend (hrun.2 _ (by omega) (by omega))
    have hstart := hrun.1
    rw [hmap, List.mem_map]
    exact ⟨(h - m).toNat, List.mem_range.mpr (by omega), by omega⟩
  obtain ⟨d, hd, rfl⟩ := List.mem_map.mp hin
  have hadmd : d.admissible = true := ((prefixo_horizons m _).2 d (hdelta ▸ hd)).1
  -- and every point of the horizon can come first, so that it is that one
  have hsame : ∀ x ∈ points, x.at_ = d.at_ → x = d := by
    intro x hx hat
    have hfirst := perm_first hx
    obtain ⟨-, hdelta', -⟩ := (spectrum_eq_ok (hm.perm hfirst)).mp (hall _ hfirst)
    have hfind := find?_of_mem_prefixo (hdelta' ▸ hd)
    rw [find?_ordenados_first d hat.symm] at hfind
    exact Option.some.inj hfind
  have hpoint : (points.filter fun p => p.at_ = d.at_).length = points.count d := by
    rw [← List.countP_eq_length_filter, List.count]
    refine List.countP_congr fun x hx => ?_
    rw [decide_eq_true_eq, beq_iff_eq]
    exact ⟨hsame x hx, fun hxd => hxd ▸ rfl⟩
  have honce : s.deltaCont.count d = 1 := by
    have hnodup : s.deltaCont.Nodup := by
      refine List.Nodup.of_map (·.at_) ?_
      rw [hmap]
      refine List.nodup_range.map fun i j (hij : m + (i : ℤ) = m + (j : ℤ)) => ?_
      omega
    exact List.count_eq_one_of_mem hnodup hd
  have hgone : s.rPred.count d = 0 := by
    rw [List.count_eq_zero, hrest]
    intro hleft
    exact absurd hd (by simpa using (List.mem_filter.mp hleft).2)
  have hcount := hperm.count_eq d
  rw [List.count_append, honce, hgone, List.count_filter hadmd] at hcount
  omega

/-- The spectrum is faithful exactly when no horizon of its run is evaluated twice and the
admissible points of one horizon are one point. -/
theorem spectrum_faithful (hne : points ≠ []) : Fiel points ↔ SemRepeticao points := by
  constructor
  · intro h
    exact ⟨fun _ _ hm hrun => h.unico hm hrun,
      fun _ hp _ hq hadm hadm' hat => h.iguais hp hq hadm hadm' hat⟩
  · exact fun h => h.fiel hne

theorem tres_pos : (1 : ℤ) ≤ 3 := by decide

/-- An admissible point of the third horizon. -/
def terceiro : PredictiveHorizonPoint := ⟨⟨3, tres_pos⟩, .finite 1, true, .noShift⟩

theorem spectrum_faithful_alone : Fiel [terceiro] := by
  refine (spectrum_faithful (List.cons_ne_nil _ _)).mpr ⟨fun m h _ hrun => ?_, ?_⟩
  · obtain ⟨p, hp, -, hat⟩ := hrun.2 h hrun.1 le_rfl
    obtain rfl := List.mem_singleton.mp hp
    simp [hat]
  · intro p hp q hq _ _ _
    rw [List.mem_singleton.mp hp, List.mem_singleton.mp hq]

/-- The same point twice is no partition. -/
theorem spectrum_repeated : ¬ ∀ points : List PredictiveHorizonPoint, points ≠ [] → Fiel points := by
  intro hall
  obtain ⟨s, hs, -⟩ := hall [terceiro, terceiro] (List.cons_ne_nil _ _)
  have hraises : (predictiveHorizonSpectrum [terceiro, terceiro]).isOk = false := by decide +kernel
  rw [hs] at hraises
  cases hraises

end PiaOs.Predictive
