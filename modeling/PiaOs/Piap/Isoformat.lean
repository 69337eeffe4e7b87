import PiaOs.Piap.Envelope

/-!
# Dates in texts

`datetime.fromisoformat` on the extended forms, and that it is the inverse of `isoformat`.
-/

namespace PiaOs.Piap

open Support Memory

/-! ## The calendar -/

/-- The day of a date, counted from 1970-01-01. -/
def ordinal (year month day : ℕ) : ℤ :=
  let fromMarch : ℤ := if month ≤ 2 then (year : ℤ) - 1 else year
  let yearOfEra := fromMarch % 400
  let dayOfYear : ℤ := (153 * (((month : ℤ) + 9) % 12) + 2) / 5 + day - 1
  fromMarch / 400 * 146097 + (yearOfEra * 365 + yearOfEra / 4 - yearOfEra / 100 + dayOfYear) - 719468

/-- A year of an era of 400 starts before each of its days, and ends at most 366 days later. -/
theorem yearOfEra_bounds {dayOfEra yearOfEra : ℤ} (h0 : 0 ≤ dayOfEra) (h1 : dayOfEra < 146097)
    (hyear : yearOfEra =
      (dayOfEra - dayOfEra / 1460 + dayOfEra / 36524 - dayOfEra / 146096) / 365) :
    (0 ≤ yearOfEra ∧ yearOfEra < 400) ∧
      365 * yearOfEra + yearOfEra / 4 - yearOfEra / 100 ≤ dayOfEra ∧
      dayOfEra ≤ 365 * yearOfEra + yearOfEra / 4 - yearOfEra / 100 + 365 := by
  have hcentury : dayOfEra / 36524 = 0 ∨ dayOfEra / 36524 = 1 ∨ dayOfEra / 36524 = 2 ∨
      dayOfEra / 36524 = 3 ∨ dayOfEra / 36524 = 4 := by omega
  have hlast : dayOfEra / 146096 = 0 ∨ dayOfEra / 146096 = 1 := by omega
  have hyears : yearOfEra / 100 = 0 ∨ yearOfEra / 100 = 1 ∨ yearOfEra / 100 = 2 ∨
      yearOfEra / 100 = 3 := by omega
  refine ⟨by omega, ?_, ?_⟩
  · rcases hlast with hlast | hlast <;> rcases hcentury with h | h | h | h | h <;>
      rcases hyears with hy | hy | hy | hy <;> omega
  · rcases hlast with hlast | hlast <;> rcases hcentury with h | h | h | h | h <;>
      rcases hyears with hy | hy | hy | hy <;> omega

/-- What `civil` shows for a day of the calendar: a date of four digits, two and two. -/
theorem civil_spec {days : ℤ} (h : -719162 ≤ days ∧ days ≤ 2932896) :
    ∃ year month day, Datetime.civil days = (year, month, day) ∧ ordinal year month day = days ∧
      (1 ≤ year ∧ year < 10000) ∧ month < 100 ∧ day < 100 := by
  have hdoe : 0 ≤ (days + 719468) % 146097 ∧ (days + 719468) % 146097 < 146097 := by omega
  have hera : (days + 719468) = (days + 719468) / 146097 * 146097 + (days + 719468) % 146097 := by
    omega
  unfold Datetime.civil
  dsimp only
  generalize hd : (days + 719468) % 146097 = dayOfEra at hdoe hera ⊢
  generalize he : (days + 719468) / 146097 = era at hera ⊢
  generalize hy : (dayOfEra - dayOfEra / 1460 + dayOfEra / 36524 - dayOfEra / 146096) / 365 =
    yearOfEra
  obtain ⟨hyear, hstart, hend⟩ := yearOfEra_bounds hdoe.1 hdoe.2 hy.symm
  generalize hdoy : dayOfEra - (365 * yearOfEra + yearOfEra / 4 - yearOfEra / 100) = dayOfYear
  have hdays : 0 ≤ dayOfYear ∧ dayOfYear ≤ 365 := by omega
  generalize hmp : (5 * dayOfYear + 2) / 153 = monthFromMarch
  have hmonth : 0 ≤ monthFromMarch ∧ monthFromMarch ≤ 11 := by omega
  have hday : 0 ≤ dayOfYear - (153 * monthFromMarch + 2) / 5 ∧
      dayOfYear - (153 * monthFromMarch + 2) / 5 ≤ 30 := by omega
  by_cases hlate : monthFromMarch < 10
  · have hnotEarly : ¬(monthFromMarch + 3).toNat ≤ 2 := by omega
    have hnotEarly' : ¬monthFromMarch + 3 ≤ 2 := by omega
    simp only [if_pos hlate, if_neg hnotEarly']
    refine ⟨_, _, _, rfl, ?_, by omega, by omega, by omega⟩
    unfold ordinal
    simp only [if_neg hnotEarly]
    have hyearNat : ((yearOfEra + era * 400 + 0).toNat : ℤ) = yearOfEra + era * 400 := by omega
    have hmod : (yearOfEra + era * 400) % 400 = yearOfEra := by omega
    have hdiv : (yearOfEra + era * 400) / 400 = era := by omega
    have hback : (((monthFromMarch + 3).toNat : ℤ) + 9) % 12 = monthFromMarch := by omega
    rw [hyearNat, hmod, hdiv, hback]
    omega
  · have hearly : (monthFromMarch - 9).toNat ≤ 2 := by omega
    have hearly' : monthFromMarch - 9 ≤ 2 := by omega
    simp only [if_neg hlate, if_pos hearly']
    refine ⟨_, _, _, rfl, ?_, by omega, by omega, by omega⟩
    unfold ordinal
    simp only [if_pos hearly]
    have hyearNat : ((yearOfEra + era * 400 + 1).toNat : ℤ) - 1 = yearOfEra + era * 400 := by omega
    have hmod : (yearOfEra + era * 400) % 400 = yearOfEra := by omega
    have hdiv : (yearOfEra + era * 400) / 400 = era := by omega
    have hback : (((monthFromMarch - 9).toNat : ℤ) + 9) % 12 = monthFromMarch := by omega
    rw [hyearNat, hmod, hdiv, hback]
    omega

/-- The day of a date, when the calendar has it. -/
def dia? (year month day : ℕ) : Option ℤ :=
  if (1 ≤ year ∧ year ≤ 9999) ∧ Datetime.civil (ordinal year month day) = (year, month, day) then
    some (ordinal year month day)
  else none

/-! ## Reading -/

def CodePoint.digito? : CodePoint → Option ℕ
  | .char c => if c.isDigit then some (c.toNat - 48) else none
  | .surrogate _ => none

/-- A number of exactly so many digits, after what was read of it. -/
def lerNumero : ℕ → ℕ → Texto → Option (ℕ × Texto)
  | 0, lido, t => some (lido, t)
  | _ + 1, _, [] => none
  | n + 1, lido, c :: t => do
    let digito ← c.digito?
    lerNumero n (lido * 10 + digito) t

/-- What follows a separator. -/
def depoisDoSinal (c : Char) : Texto → Option Texto
  | [] => none
  | d :: t => if d = .char c then some t else none

/-- `YYYY-MM-DD`. -/
def lerData (t : Texto) : Option (ℤ × Texto) := do
  let (year, t) ← lerNumero 4 0 t
  let t ← depoisDoSinal '-' t
  let (month, t) ← lerNumero 2 0 t
  let t ← depoisDoSinal '-' t
  let (day, t) ← lerNumero 2 0 t
  let dia ← dia? year month day
  return (dia, t)

/-- `.ffffff`, when there is a point. -/
def lerFracao (t : Texto) : Option (ℕ × Texto) :=
  match depoisDoSinal '.' t with
  | none => some (0, t)
  | some t => lerNumero 6 0 t

/-- `:SS[.ffffff]`, when there is a colon: microseconds. -/
def lerSegundos (t : Texto) : Option (ℕ × Texto) :=
  match depoisDoSinal ':' t with
  | none => some (0, t)
  | some t => do
    let (second, t) ← lerNumero 2 0 t
    let (micros, t) ← lerFracao t
    if second < 60 then return (second * 1000000 + micros, t) else none

/-- `HH:MM[:SS[.ffffff]]`, in microseconds. -/
def lerHora (t : Texto) : Option (ℕ × Texto) := do
  let (hour, t) ← lerNumero 2 0 t
  let t ← depoisDoSinal ':' t
  let (minute, t) ← lerNumero 2 0 t
  let (micros, t) ← lerSegundos t
  if hour < 24 ∧ minute < 60 then
    return ((hour * 60 + minute) * 60000000 + micros, t)
  else none

/-- A reading with its offset, when `datetime` can hold both. -/
def momento? (wall offset : ℤ) : Option Momento :=
  if h : (datetimeMin ≤ wall ∧ wall ≤ datetimeMax) ∧
      -microsecondsPerDay < offset ∧ offset < microsecondsPerDay then
    some (.ciente ⟨wall, offset, h.1, h.2⟩)
  else none

/-- The offset of a reading, or none to the end of the text. -/
def lerDeslocamento (wall : ℤ) (t : Texto) : Option Momento :=
  match depoisDoSinal '+' t, depoisDoSinal '-' t with
  | some t, _ => do
    let (offset, resto) ← lerHora t
    if resto = [] then momento? wall offset else none
  | none, some t => do
    let (offset, resto) ← lerHora t
    if resto = [] then momento? wall (-offset) else none
  | none, none => if t = [] then some (.ingenuo wall) else none

/-- `datetime.fromisoformat` on the extended forms, where any code point may separate the date from
the time. -/
def fromisoformat (t : Texto) : Option Momento := do
  let (dia, t) ← lerData t
  match t with
  | [] => return .ingenuo (dia * microsecondsPerDay)
  | _ :: t => do
    let (micros, t) ← lerHora t
    lerDeslocamento (dia * microsecondsPerDay + micros) t

example : (fromisoformat (Texto.of "2026-03-01+00:00")).map Momento.instant =
    some 1772323200000000 := by decide +kernel

/-! ## The inverse of `isoformat` -/

theorem texto_of_append (a b : String) : Texto.of (a ++ b) = Texto.of a ++ Texto.of b := by
  unfold Texto.of
  rw [String.toList_append, List.map_append]

theorem digito?_hexDigit {n : ℕ} (h : n < 10) : (CodePoint.char (hexDigit n)).digito? = some n := by
  have hall : ∀ n : Fin 10, (CodePoint.char (hexDigit n.val)).digito? = some n.val := by decide
  exact hall ⟨n, h⟩

/-- The last digit is read last. -/
theorem lerNumero_succ (width lido : ℕ) (t : Texto) :
    lerNumero (width + 1) lido t =
      (lerNumero width lido t).bind fun antes => lerNumero 1 antes.1 antes.2 := by
  induction width generalizing lido t with
  | zero => rfl
  | succ width ih =>
    cases t with
    | nil => rfl
    | cons c t =>
      have hstep (n : ℕ) : lerNumero (n + 1) lido (c :: t) =
          c.digito?.bind fun digito => lerNumero n (lido * 10 + digito) t := rfl
      rw [hstep, hstep]
      cases c.digito? with
      | none => rfl
      | some digito => exact ih (lido * 10 + digito) t

/-- A padded number is read back, whatever follows it. -/
theorem lerNumero_digits (width lido n : ℕ) (t : Texto) :
    lerNumero width lido ((digits 10 width n).map .char ++ t) =
      some (lido * 10 ^ width + n % 10 ^ width, t) := by
  induction width generalizing n t with
  | zero => simp [lerNumero, digits, Nat.mod_one]
  | succ width ih =>
    have hlast : n % 10 < 10 := Nat.mod_lt n (by decide)
    have hsplit : (lido * 10 ^ width + n / 10 % 10 ^ width) * 10 + n % 10 =
        lido * 10 ^ (width + 1) + n % 10 ^ (width + 1) := by
      have hmod : n % (10 ^ width * 10) = n % 10 + 10 * (n / 10 % 10 ^ width) := by
        rw [Nat.mul_comm, Nat.mod_mul]
      rw [pow_succ, hmod]
      ring
    rw [digits, List.map_append, List.append_assoc, lerNumero_succ, ih]
    simp only [Option.bind_some, List.map_cons, List.map_nil, List.cons_append, List.nil_append,
      lerNumero, digito?_hexDigit hlast, Option.bind_eq_bind, hsplit]

theorem lerNumero_padded (width n : ℕ) (h : n < 10 ^ width) (t : Texto) :
    lerNumero width 0 (Texto.of (padded width n) ++ t) = some (n, t) := by
  have hread := lerNumero_digits width 0 n t
  rw [Nat.mod_eq_of_lt h, Nat.zero_mul, Nat.zero_add] at hread
  have htext : Texto.of (padded width n) = (digits 10 width n).map .char := by
    unfold Texto.of padded
    rw [String.toList_ofList]
  rw [htext]
  exact hread

theorem dia?_civil {days : ℤ} {year month day : ℕ} (hyear : 1 ≤ year ∧ year < 10000)
    (hcivil : Datetime.civil days = (year, month, day)) (hback : ordinal year month day = days) :
    dia? year month day = some days := by
  unfold dia?
  rw [hback, if_pos ⟨⟨hyear.1, by omega⟩, hcivil⟩]

theorem depoisDoSinal_cons (c : Char) (t : Texto) : depoisDoSinal c (.char c :: t) = some t := by
  simp [depoisDoSinal]

/-- What `isoformat` writes of a reading in UTC. -/
theorem isoformat_utc (i : Instante) {year month day : ℕ}
    (hcivil : Datetime.civil (i.val / microsecondsPerDay) = (year, month, day)) :
    i.utc.isoformat = padded 4 year ++ "-" ++ padded 2 month ++ "-" ++ padded 2 day ++ "T" ++
      (padded 2 ((i.val % microsecondsPerDay).toNat / 3600000000) ++ ":" ++
        padded 2 ((i.val % microsecondsPerDay).toNat / 60000000 % 60) ++
        (":" ++ padded 2 ((i.val % microsecondsPerDay).toNat / 1000000 % 60)) ++
        (if (i.val % microsecondsPerDay).toNat % 1000000 ≠ 0 then
          "." ++ padded 6 ((i.val % microsecondsPerDay).toNat % 1000000) else "")) ++
      "+" ++ "00:00" := by
  unfold Datetime.isoformat Instante.utc
  simp only [hcivil]
  rfl

theorem lerData_padded {days : ℤ} {year month day : ℕ} (t : Texto)
    (hyear : 1 ≤ year ∧ year < 10000) (hmonth : month < 100) (hday : day < 100)
    (hcivil : Datetime.civil days = (year, month, day)) (hback : ordinal year month day = days) :
    lerData (Texto.of (padded 4 year) ++ .char '-' :: (Texto.of (padded 2 month) ++ .char '-' ::
      (Texto.of (padded 2 day) ++ t))) = some (days, t) := by
  unfold lerData
  simp only [lerNumero_padded 4 year (by omega),
    lerNumero_padded 2 month (by omega),
    lerNumero_padded 2 day (by omega), depoisDoSinal_cons,
    dia?_civil hyear hcivil hback, Option.bind_eq_bind, Option.bind_some, Option.pure_def]

/-- The fraction is read back before what is no point. -/
theorem lerFracao_padded (micros : ℕ) {t : Texto} (ht : t.head? ≠ some (.char '.')) :
    lerFracao (Texto.of (if micros % 1000000 ≠ 0 then "." ++ padded 6 (micros % 1000000) else "") ++
      t) = some (micros % 1000000, t) := by
  unfold lerFracao
  split_ifs with hfraction
  · have htext : Texto.of ("." ++ padded 6 (micros % 1000000)) ++ t =
        .char '.' :: (Texto.of (padded 6 (micros % 1000000)) ++ t) := by
      rw [texto_of_append]
      rfl
    rw [htext, depoisDoSinal_cons]
    exact lerNumero_padded 6 _ (by omega) t
  · have hnone : depoisDoSinal '.' t = none := by
      cases t with
      | nil => rfl
      | cons c t =>
        have hc : c ≠ .char '.' := fun h => ht (by rw [h]; rfl)
        simp [depoisDoSinal, hc]
    have hzero : micros % 1000000 = 0 := not_not.mp hfraction
    have hempty : Texto.of "" ++ t = t := rfl
    rw [hempty, hnone, hzero]

theorem lerHora_padded {micros : ℕ} {t : Texto} (h : micros < 86400000000)
    (ht : t.head? ≠ some (.char '.')) :
    lerHora (Texto.of (padded 2 (micros / 3600000000)) ++ .char ':' ::
      (Texto.of (padded 2 (micros / 60000000 % 60)) ++ .char ':' ::
        (Texto.of (padded 2 (micros / 1000000 % 60)) ++
          (Texto.of (if micros % 1000000 ≠ 0 then "." ++ padded 6 (micros % 1000000) else "") ++
            t)))) = some (micros, t) := by
  have hhour : micros / 3600000000 < 24 := by omega
  have hminute : micros / 60000000 % 60 < 60 := by omega
  have hsecond : micros / 1000000 % 60 < 60 := by omega
  have hsum : (micros / 3600000000 * 60 + micros / 60000000 % 60) * 60000000 +
      (micros / 1000000 % 60 * 1000000 + micros % 1000000) = micros := by omega
  unfold lerHora lerSegundos
  simp only [lerNumero_padded 2 (micros / 3600000000) (by omega),
    lerNumero_padded 2 (micros / 60000000 % 60) (by omega),
    lerNumero_padded 2 (micros / 1000000 % 60) (by omega), depoisDoSinal_cons,
    lerFracao_padded micros ht, hhour, hminute, hsecond, hsum, and_self, if_true,
    Option.bind_eq_bind, Option.bind_some, Option.pure_def]

/-- `datetime.fromisoformat` is the inverse of `isoformat`. -/
theorem fromisoformat_isoformat (i : Instante) :
    fromisoformat (Texto.of i.utc.isoformat) = some (.ciente i.utc) := by
  obtain ⟨hmin, hmax⟩ := i.property
  have hdays : -719162 ≤ i.val / microsecondsPerDay ∧ i.val / microsecondsPerDay ≤ 2932896 := by
    unfold microsecondsPerDay datetimeMin datetimeMax at *
    omega
  obtain ⟨year, month, day, hcivil, hback, hyear, hmonth, hday⟩ := civil_spec hdays
  generalize hm : (i.val % microsecondsPerDay).toNat = micros
  have hmicros : micros < 86400000000 ∧
      i.val / microsecondsPerDay * microsecondsPerDay + micros = i.val := by
    unfold microsecondsPerDay at hm ⊢
    omega
  have htext : Texto.of i.utc.isoformat = Texto.of (padded 4 year) ++ .char '-' ::
      (Texto.of (padded 2 month) ++ .char '-' :: (Texto.of (padded 2 day) ++ .char 'T' ::
        (Texto.of (padded 2 (micros / 3600000000)) ++ .char ':' ::
          (Texto.of (padded 2 (micros / 60000000 % 60)) ++ .char ':' ::
            (Texto.of (padded 2 (micros / 1000000 % 60)) ++
              (Texto.of (if micros % 1000000 ≠ 0 then "." ++ padded 6 (micros % 1000000) else "") ++
                Texto.of "+00:00")))))) := by
    have hdash : Texto.of "-" = [.char '-'] := rfl
    have hcolon : Texto.of ":" = [.char ':'] := rfl
    have hT : Texto.of "T" = [.char 'T'] := rfl
    have hend : Texto.of "+00:00" = Texto.of "+" ++ Texto.of "00:00" := rfl
    rw [isoformat_utc i hcivil, hm, hend]
    simp only [texto_of_append, hdash, hcolon, hT, List.append_assoc, List.cons_append,
      List.nil_append]
  have hoffset : lerDeslocamento i.val (Texto.of "+00:00") = some (.ciente i.utc) := by
    have hread : lerHora (Texto.of "00:00") = some (0, []) := by decide +kernel
    have hsign : depoisDoSinal '+' (Texto.of "+00:00") = some (Texto.of "00:00") := by decide
    unfold lerDeslocamento momento?
    simp only [hsign, hread, Option.bind_eq_bind, Option.bind_some, if_true]
    rw [dif_pos ⟨i.property, Datetime.epoch.offset_bound⟩]
    rfl
  rw [htext]
  unfold fromisoformat
  simp only [lerData_padded _ hyear hmonth hday hcivil hback,
    lerHora_padded hmicros.1 (t := Texto.of "+00:00") (by decide), hmicros.2, hoffset,
    Option.bind_eq_bind, Option.bind_some]

end PiaOs.Piap
