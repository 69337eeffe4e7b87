import PiaOs.Piap.Text

/-!
# JSON texts

What `json.loads` reads from a text and what `json.dumps` writes, on texts of code points.
The scanner goes from left to right and stops at the first thing that is wrong.
-/

namespace PiaOs.Piap

open Support

/-- A value of `json.loads`. Of a `float` nobody reads more than its type. -/
inductive Valor
  | nulo
  | logico (b : Bool)
  | inteiro (n : ℤ)
  | real
  | texto (t : Texto)
  | lista (itens : List Valor)
  | objeto (campos : List (Texto × Valor))

/-- Why a text is not read. -/
inductive FalhaJson
  /-- `JSONDecodeError`. -/
  | json
  /-- `int` refuses the digits with a `ValueError`. -/
  | numero
  /-- `_sem_chave_duplicada`. -/
  | duplicada (chave : Texto)
  /-- `RecursionError`. -/
  | recursao
  deriving DecidableEq

/-! ## Scanning -/

/-- `[ \t\n\r]`. -/
def CodePoint.emBranco (c : CodePoint) : Bool :=
  c = .char ' ' || c = .char '\t' || c = .char '\n' || c = .char '\r'

def pular (t : Texto) : Texto := t.dropWhile CodePoint.emBranco

/-- The value of a digit in base sixteen, in either case. -/
def CodePoint.hex? : CodePoint → Option ℕ
  | .char c =>
    if '0' ≤ c ∧ c ≤ '9' then some (c.toNat - 48)
    else if 'a' ≤ c ∧ c ≤ 'f' then some (c.toNat - 87)
    else if 'A' ≤ c ∧ c ≤ 'F' then some (c.toNat - 55)
    else none
  | .surrogate _ => none

/-- The four digits of an escape, and what follows them. -/
def quatroHex : Texto → Option (ℕ × Texto)
  | a :: b :: c :: d :: t => do
    let a ← a.hex?
    let b ← b.hex?
    let c ← c.hex?
    let d ← d.hex?
    return (((a * 16 + b) * 16 + c) * 16 + d, t)
  | _ => none

/-- The code point of a unit of sixteen bits. -/
def unidade (n : ℕ) : CodePoint :=
  if 0xd800 ≤ n ∧ n < 0xe000 then .surrogate (Fin.ofNat 2048 (n - 0xd800)) else .char (Char.ofNat n)

/-- The second half of a pair, when it follows as an escape. -/
def metadeBaixa? (t : Texto) : Option (ℕ × Texto) :=
  match t with
  | .char '\\' :: .char 'u' :: t => (quatroHex t).filter fun lida => 0xdc00 ≤ lida.1 ∧ lida.1 < 0xe000
  | _ => none

/-- `\uXXXX`: a high half is joined with a low one that follows it. -/
def escapeUnicode (t : Texto) : Option (CodePoint × Texto) := do
  let (alta, t) ← quatroHex t
  if 0xd800 ≤ alta ∧ alta < 0xdc00 then
    match metadeBaixa? t with
    | some (baixa, t) =>
      return (.char (Char.ofNat (0x10000 + (alta - 0xd800) * 1024 + (baixa - 0xdc00))), t)
    | none => return (unidade alta, t)
  else return (unidade alta, t)

/-- `BACKSLASH`. -/
def escapeSimples (c : CodePoint) : Option CodePoint :=
  if c = .char '"' then some c
  else if c = .char '\\' then some c
  else if c = .char '/' then some c
  else if c = .char 'b' then some (.char (Char.ofNat 8))
  else if c = .char 'f' then some (.char (Char.ofNat 12))
  else if c = .char 'n' then some (.char '\n')
  else if c = .char 'r' then some (.char '\r')
  else if c = .char 't' then some (.char '\t')
  else none

/-- `scanstring` after the opening quote. Each step takes a code point at least, so the length
of the text bounds the steps. -/
def scanString : ℕ → Texto → Option (Texto × Texto)
  | 0, _ => none
  | _ + 1, [] => none
  | passos + 1, c :: t =>
    if c = .char '"' then some ([], t)
    else if c = .char '\\' then
      match t with
      | [] => none
      | e :: t => do
        let (lido, t) ← if e = .char 'u' then escapeUnicode t else (escapeSimples e).map (·, t)
        let (resto, t) ← scanString passos t
        return (lido :: resto, t)
    else if c.ord < 32 then none
    else do
      let (resto, t) ← scanString passos t
      return (c :: resto, t)

def CodePoint.isDigit : CodePoint → Bool
  | .char c => c.isDigit
  | .surrogate _ => false

/-- The leading digits of a text, and what follows them. -/
def digitos (t : Texto) : List Char × Texto :=
  ((t.takeWhile CodePoint.isDigit).filterMap CodePoint.char?, t.dropWhile CodePoint.isDigit)

/-- `sys.get_int_max_str_digits()`. -/
def intMaxStrDigits : ℕ := 4300

/-- The fraction and the exponent of a number. `none` when there is neither. -/
def parteReal (t : Texto) : Option Texto :=
  let fracao :=
    match t with
    | .char '.' :: resto => if (digitos resto).1 = [] then none else some (digitos resto).2
    | _ => none
  let aposFracao := fracao.getD t
  let expoente :=
    match aposFracao with
    | e :: resto =>
      if e = .char 'e' ∨ e = .char 'E' then
        let semSinal :=
          match resto with
          | .char '+' :: resto => resto
          | .char '-' :: resto => resto
          | _ => resto
        if (digitos semSinal).1 = [] then none else some (digitos semSinal).2
      else none
    | [] => none
  expoente <|> fracao

/-- The digits before the point: a leading zero stands alone. -/
def parteInteira (t : Texto) : List Char × Texto :=
  if t.head? = some (.char '0') then (['0'], t.tail) else digitos t

/-- `_match_number` after the sign. -/
def scanNumber (negativo : Bool) (t : Texto) : Except FalhaJson (Valor × Texto) :=
  let (ds, resto) := parteInteira t
  if ds = [] then .error .json
  else
    match parteReal resto with
    | some resto => .ok (.real, resto)
    | none =>
      if intMaxStrDigits < ds.length then .error .numero
      else
        let n : ℤ := Nat.ofDigitChars 10 ds 0
        .ok (.inteiro (if negativo then -n else n), resto)

/-- What follows a word at the start of a text. -/
def depoisDe (palavra : String) (t : Texto) : Option Texto :=
  if Texto.of palavra <+: t then some (t.drop palavra.length) else none

def palavras : List (String × Valor) :=
  [("null", .nulo), ("true", .logico true), ("false", .logico false), ("NaN", .real),
    ("Infinity", .real), ("-Infinity", .real)]

/-- The value of the word at the start of a text. -/
def lerPalavra (t : Texto) : Option (Valor × Texto) :=
  palavras.findSome? fun par => (depoisDe par.1 t).map (par.2, ·)

/-- The words and numbers. -/
def scanPalavra (t : Texto) : Except FalhaJson (Valor × Texto) :=
  match lerPalavra t with
  | some lida => .ok lida
  | none =>
    match t with
    | .char '-' :: t => scanNumber true t
    | _ => scanNumber false t

/-- `_sem_chave_duplicada`: the first key that comes again. -/
def chaveRepetida : List Texto → List (Texto × Valor) → Option Texto
  | _, [] => none
  | vistas, (chave, _) :: resto =>
    if chave ∈ vistas then some chave else chaveRepetida (chave :: vistas) resto

def semChaveDuplicada (pares : List (Texto × Valor)) : Except FalhaJson Valor :=
  match chaveRepetida [] pares with
  | some chave => .error (.duplicada chave)
  | none => .ok (.objeto pares)

/-- The name of a member, up to the colon and the blanks after it. -/
def scanNome (t : Texto) : Except FalhaJson (Texto × Texto) :=
  match t with
  | .char '"' :: t =>
    match scanString t.length t with
    | none => .error .json
    | some (chave, t) =>
      match pular t with
      | .char ':' :: t => .ok (chave, pular t)
      | _ => .error .json
  | _ => .error .json

mutual

/-- `scan_once`, with the levels of containers that the interpreter still opens. Twice the
length of the text bounds the steps. -/
def scanOnce : ℕ → ℕ → Texto → Except FalhaJson (Valor × Texto)
  | 0, _, _ => .error .json
  | passos + 1, niveis, t =>
    match t with
    | .char '"' :: t =>
      match scanString t.length t with
      | none => .error .json
      | some (lido, t) => .ok (.texto lido, t)
    | .char '[' :: t =>
      match niveis with
      | 0 => .error .recursao
      | niveis + 1 =>
        match pular t with
        | .char ']' :: t => .ok (.lista [], t)
        | t => do
          let (itens, t) ← scanItens passos niveis t
          return (.lista itens, t)
    | .char '{' :: t =>
      match niveis with
      | 0 => .error .recursao
      | niveis + 1 => do
        let (pares, t) ←
          match pular t with
          | .char '}' :: t => .ok ([], t)
          | t => scanMembros passos niveis t
        let lido ← semChaveDuplicada pares
        return (lido, t)
    | t => scanPalavra t

/-- `_parse_array` from the first item on. -/
def scanItens : ℕ → ℕ → Texto → Except FalhaJson (List Valor × Texto)
  | 0, _, _ => .error .json
  | passos + 1, niveis, t => do
    let (item, t) ← scanOnce passos niveis t
    match pular t with
    | .char ']' :: t => return ([item], t)
    | .char ',' :: t => do
      let (itens, t) ← scanItens passos niveis (pular t)
      return (item :: itens, t)
    | _ => .error .json

/-- `_parse_object` from the first name on. -/
def scanMembros : ℕ → ℕ → Texto → Except FalhaJson (List (Texto × Valor) × Texto)
  | 0, _, _ => .error .json
  | passos + 1, niveis, t => do
    let (chave, t) ← scanNome t
    let (valor, t) ← scanOnce passos niveis t
    match pular t with
    | .char '}' :: t => return ([(chave, valor)], t)
    | .char ',' :: t => do
      let (pares, t) ← scanMembros passos niveis (pular t)
      return ((chave, valor) :: pares, t)
    | _ => .error .json

end

/-- `json.loads` with the hook. -/
def loads (niveis : ℕ) (t : Texto) : Except FalhaJson Valor :=
  if t.head? = some (.char (Char.ofNat 0xfeff)) then .error .json
  else do
    let (lido, resto) ← scanOnce (2 * t.length) niveis (pular t)
    if pular resto = [] then return lido else .error .json

/-! ## Writing -/

/-- What the boundary writes: neither truth values nor floats. -/
inductive Documento
  | nulo
  | inteiro (n : ℤ)
  | texto (t : Texto)
  | lista (itens : List Documento)
  | objeto (campos : List (Texto × Documento))

/-- How a code point stands inside quotes. -/
def CodePoint.escape : CodePoint → Texto
  | .char c => (Json.escape c).map .char
  | .surrogate n => [.surrogate n]

def aspas (t : Texto) : Texto := .char '"' :: t.flatMap CodePoint.escape ++ [.char '"']

mutual

/-- `json.dumps` with the compact separators and without `ensure_ascii`. The fields are in the
order of their names already. -/
def Documento.dumps : Documento → Texto
  | .nulo => Texto.of "null"
  | .inteiro n => Texto.of (toString n)
  | .texto t => aspas t
  | .lista itens => .char '[' :: dumpsItens itens ++ [.char ']']
  | .objeto campos => .char '{' :: dumpsCampos campos ++ [.char '}']

def Documento.dumpsItens : List Documento → Texto
  | [] => []
  | [item] => item.dumps
  | item :: itens => item.dumps ++ .char ',' :: dumpsItens itens

def Documento.dumpsCampos : List (Texto × Documento) → Texto
  | [] => []
  | [(chave, valor)] => aspas chave ++ .char ':' :: valor.dumps
  | (chave, valor) :: campos =>
    aspas chave ++ .char ':' :: valor.dumps ++ .char ',' :: dumpsCampos campos

end

mutual

/-- The value that a document writes. -/
def Documento.valor : Documento → Valor
  | .nulo => .nulo
  | .inteiro n => .inteiro n
  | .texto t => .texto t
  | .lista itens => .lista (valores itens)
  | .objeto campos => .objeto (pares campos)

def Documento.valores : List Documento → List Valor
  | [] => []
  | item :: itens => item.valor :: valores itens

def Documento.pares : List (Texto × Documento) → List (Texto × Valor)
  | [] => []
  | (chave, valor) :: campos => (chave, valor.valor) :: pares campos

end

/-! ## Bytes -/

/-- `payload.decode("utf-8")`. -/
def decode (payload : ByteArray) : Option Texto :=
  payload.utf8Decode?.map fun cs => cs.toList.map CodePoint.char

/-- `texto.encode("utf-8")`. A surrogate is a `UnicodeEncodeError`. -/
def Texto.encode (t : Texto) : Option ByteArray := t.string?.map String.toUTF8

end PiaOs.Piap
