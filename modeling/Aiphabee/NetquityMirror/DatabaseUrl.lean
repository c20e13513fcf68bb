import Mathlib.Data.List.DropRight

/-!
# Two readers of a database URL

The parser of URLs and the client library part the same text by rules of their own.  For the
parser the authority ends at the first of `/`, `?` and `#`, and the user in it at the last
`@`; for the client the user ends at the first `@` that comes before any `/`, the hosts at
`/` or `?`, and the parameters of the query come before the authority.

In a plain text both find the same credentials and the same host.
-/

namespace Aiphabee.WriteHost

/-- The front of a text, up to a character. -/
def before (mark : Char) (text : List Char) : List Char :=
  text.takeWhile (· ≠ mark)

/-- What follows the first place of a character. -/
def behind (mark : Char) (text : List Char) : List Char :=
  (text.dropWhile (· ≠ mark)).tail

/-! The parser of URLs, which the script asks. -/
section UrlParser

structure DatabaseUrl where
  scheme : String
  username : String
  password : String
  hostname : String
  port : String
  /-- The path, the query and the fragment. -/
  tail : String

/-- `url.toString()`, of a URL that has a host. -/
def DatabaseUrl.toText (url : DatabaseUrl) : String :=
  url.scheme ++ "://" ++
    (if url.username = "" ∧ url.password = "" then ""
      else url.username ++ (if url.password = "" then "" else ":" ++ url.password) ++ "@") ++
    url.hostname ++ (if url.port = "" then "" else ":" ++ url.port) ++ url.tail

/-- A tail that follows the host for the client too. -/
structure PlainTail (tail : List Char) : Prop where
  head : ∀ c ∈ tail.head?, c = '/' ∨ c = '?'
  noAt : '@' ∉ before '/' tail

/-- The parts of the parser that a host and a password do not depend on. -/
structure Platform where
  /-- URLs of any other scheme, and those that have no authority. -/
  parseOther : String → Option DatabaseUrl
  /-- The text that is written for an address in brackets. -/
  parseIpv6 : String → Option String
  normalizeTail : List Char → List Char
  decodeURIComponent : String → Option String
  parseIpv6_text : ∀ text address, parseIpv6 text = some address →
    (∀ c ∈ text.toList, c ∈ "0123456789abcdefABCDEF:.".toList) ∧
      ':' ∈ text.toList ∧ ':' ∈ address.toList
  plain_normalizeTail : ∀ tail, PlainTail tail → PlainTail (normalizeTail tail)

def hexDigit (n : Nat) : Char :=
  "0123456789ABCDEF".toList.getD n '0'

def percentEncodeByte (byte : UInt8) : List Char :=
  ['%', hexDigit (byte.toNat / 16), hexDigit (byte.toNat % 16)]

def percentEncode (inSet : Char → Bool) (text : List Char) : List Char :=
  text.flatMap fun c =>
    if inSet c then (String.utf8EncodeChar c).flatMap percentEncodeByte else [c]

def isControl (c : Char) : Bool :=
  c < ' ' || '~' < c

def inUserinfoSet (c : Char) : Bool :=
  isControl c || " \"#<>?^`\x7b\x7d/:;=@[\\]|".toList.contains c

def encodeUserinfo (text : List Char) : String :=
  String.ofList (percentEncode inUserinfoSet text)

def isForbiddenHostCode (c : Char) : Bool :=
  "\x00\t\n\r #/:<>?@[\\]^|".toList.contains c

/-- Without the white space around a text, and without the tabs and line ends in it. -/
def clean (text : List Char) : List Char :=
  ((text.dropWhile (· ≤ ' ')).rdropWhile (· ≤ ' ')).filter fun c =>
    c ≠ '\t' ∧ c ≠ '\n' ∧ c ≠ '\r'

def schemes : List String := ["postgresql", "postgres"]

/-- The scheme and what follows its two slashes. -/
def splitScheme (text : List Char) : Option (String × List Char) :=
  let scheme := String.ofList ((before ':' text).map Char.toLower)
  let after := text.dropWhile (· ≠ ':')
  if scheme ∈ schemes ∧ "://".toList <+: after then some (scheme, after.drop 3) else none

def authorityOf (rest : List Char) : List Char :=
  rest.takeWhile fun c => c ≠ '/' ∧ c ≠ '?' ∧ c ≠ '#'

def tailOf (rest : List Char) : List Char :=
  rest.dropWhile fun c => c ≠ '/' ∧ c ≠ '?' ∧ c ≠ '#'

/-- The user and the password end at the last `@`. -/
def userinfoOf (authority : List Char) : List Char :=
  (authority.rdropWhile (· ≠ '@')).dropLast

def hostportOf (authority : List Char) : List Char :=
  authority.rtakeWhile (· ≠ '@')

/-- The host ends at the first `:` that is in no brackets. -/
def hostOf : Bool → List Char → List Char
  | _, [] => []
  | inside, c :: rest =>
    if c = ':' ∧ inside = false then []
    else c :: hostOf (if c = '[' then true else if c = ']' then false else inside) rest

variable (platform : Platform)

def parseHost (host : List Char) : Option String :=
  if host.head? = some '[' then
    if host.getLast? = some ']' then
      (platform.parseIpv6 (String.ofList host.tail.dropLast)).map fun address =>
        "[" ++ address ++ "]"
    else none
  else if host.any isForbiddenHostCode then none
  else some (String.ofList (percentEncode isControl host))

def parsePort (port : List Char) : Option String :=
  if port = [] then some ""
  else if port.all Char.isDigit ∧ Nat.ofDigitChars 10 port 0 ≤ 65535 then
    some (String.ofList (Nat.toDigits 10 (Nat.ofDigitChars 10 port 0)))
  else none

def parseAuthority (scheme : String) (rest : List Char) : Option DatabaseUrl :=
  let authority := authorityOf rest
  let hostport := hostportOf authority
  let host := hostOf false hostport
  let port := hostport.drop host.length
  if hostport = [] ∧ '@' ∈ authority ∨ host = [] ∧ port ≠ [] then none
  else do
    let hostname ← parseHost platform host
    let port ← parsePort port.tail
    return {
      scheme
      username := encodeUserinfo (before ':' (userinfoOf authority))
      password := encodeUserinfo (behind ':' (userinfoOf authority))
      hostname
      port
      tail := String.ofList (platform.normalizeTail (tailOf rest)) }

/-- `new URL(text)`. -/
def parseDatabaseUrl (text : String) : Option DatabaseUrl :=
  match splitScheme (clean text.toList) with
  | some (scheme, rest) => parseAuthority platform scheme rest
  | none => platform.parseOther text

end UrlParser

/-! What the client library makes of the text that `psql` is given. -/
section Client

variable {platform : Platform}

/--
The decoder of percent signs, the names of parameters, and the hosts of this machine.  A
text that is no URI of the client is a list of keys and values, or the name of a database.
-/
structure Client (platform : Platform) where
  decode : String → Option String
  isKeyword : String → Bool
  isLoopback : String → Bool
  readOther : String → Option (List (String × String))
  decode_plain : ∀ text, (∀ c ∈ text.toList, ' ' < c ∧ c ≠ '%') → decode text = some text
  loopback_names : ∀ name ∈ ["localhost", "127.0.0.1", "::1"], isLoopback name = true
  loopback_ipv6 : ∀ text, platform.parseIpv6 text = some "::1" → isLoopback text = true

inductive HostPlace
  | start
  | opened
  | inside
  | closed
  | host
  | port
deriving DecidableEq

/-- A character ends the hosts, is refused, or is taken into the hosts or the ports. -/
inductive HostStep
  | stop
  | fail
  | take (next : HostPlace) (host port : List Char)

def hostStep : HostPlace → Char → HostStep
  | .opened, c => if c = ']' then .fail else .take .inside [c] []
  | .inside, c => if c = ']' then .take .closed [] [] else .take .inside [c] []
  | .port, c =>
    if c = '/' ∨ c = '?' then .stop
    else if c = ',' then .take .start [','] [',']
    else .take .port [] [c]
  | place, c =>
    if c = '[' ∧ place = .start then .take .opened [] []
    else if c = '/' ∨ c = '?' then .stop
    else if c = ',' then .take .start [','] [',']
    else if c = ':' then .take .port [] []
    else if place = .closed then .fail
    else .take .host [c] []

structure HostList where
  hosts : List Char
  ports : List Char
  rest : List Char

def readHosts (place : HostPlace) : List Char → Option HostList
  | [] => if place = .opened ∨ place = .inside then none else some ⟨[], [], []⟩
  | c :: text =>
    match hostStep place c with
    | .stop => some ⟨[], [], c :: text⟩
    | .fail => none
    | .take next host port =>
      (readHosts next text).map fun list =>
        { list with hosts := host ++ list.hosts, ports := port ++ list.ports }

/-- The user and the password end at the first `@`, if it comes before any `/`. -/
def credentialsOf (rest : List Char) : List Char × List Char :=
  let front := rest.takeWhile fun c => c ≠ '@' ∧ c ≠ '/'
  let after := rest.dropWhile fun c => c ≠ '@' ∧ c ≠ '/'
  if after.head? = some '@' then (front, after.tail) else ([], rest)

def lastValue (key : String) (parameters : List (String × String)) : Option String :=
  (parameters.reverse.find? fun parameter => parameter.1 = key).map Prod.snd

variable (client : Client platform)

/-- An empty part is not decoded, as it is not kept. -/
def decodePart (text : List Char) : Option String :=
  if text = [] then some "" else client.decode (String.ofList text)

def readParameter (text : List Char) : Option (String × String) :=
  match text.splitOn '=' with
  | [key, value] => do
    let key ← client.decode (String.ofList key)
    let value ← client.decode (String.ofList value)
    if key = "ssl" ∧ value = "true" then some ("sslmode", "require")
    else if client.isKeyword key then some (key, value)
    else none
  | _ => none

def readParameters (query : List Char) : Option (List (String × String)) :=
  let parameters := query.splitOn '&'
  let parameters :=
    if parameters.getLast? = some [] then parameters.dropLast else parameters
  parameters.mapM (readParameter client)

structure Reading where
  password : String
  hosts : String
  ports : String
  parameters : List (String × String)
deriving DecidableEq

def readUri (rest : List Char) : Option Reading := do
  let (userinfo, netloc) := credentialsOf rest
  let _ ← decodePart client (before ':' userinfo)
  let password ← decodePart client (behind ':' userinfo)
  let list ← readHosts .start netloc
  let hosts ← decodePart client list.hosts
  let ports ← decodePart client list.ports
  let _ ← decodePart client (before '?' list.rest).tail
  let parameters ← readParameters client (behind '?' list.rest)
  return { password, hosts, ports, parameters }

def uriRest (text : List Char) : Option (List Char) :=
  schemes.findSome? fun scheme => text.dropPrefix? (scheme ++ "://").toList

def readConnection (text : String) : Option Reading :=
  match uriRest text.toList with
  | some rest => readUri client rest
  | none => (client.readOther text).map fun parameters =>
    { password := "", hosts := "", ports := "", parameters }

/-- A part of the text before the query, or a parameter of it. -/
inductive Origin
  | authority
  | parameter
deriving DecidableEq

inductive Target
  | socket
  | tcp (host : String)
deriving DecidableEq

def hostTarget (host : String) : Target :=
  if host = "" ∨ host.toList.head? = some '/' ∨ host.toList.head? = some '@' then .socket
  else .tcp host

def entries (value : String) : List String :=
  (value.toList.splitOn ',').map String.ofList

/-- The hosts that are named, by the parameter if it is there. -/
def Reading.names (reading : Reading) : Origin × String :=
  match lastValue "host" reading.parameters with
  | some value => (.parameter, value)
  | none => (.authority, reading.hosts)

def Reading.hostTargets (reading : Reading) : List (Origin × Target) :=
  (entries reading.names.2).map fun name => (reading.names.1, hostTarget name)

/-- An address takes the place of the host beside it; as many hosts as addresses are needed. -/
def Reading.places (reading : Reading) : List (Origin × Target) :=
  let addresses := (lastValue "hostaddr" reading.parameters).getD ""
  if addresses = "" then reading.hostTargets
  else if reading.names.2 ≠ "" ∧ reading.hostTargets.length ≠ (entries addresses).length then []
  else (entries addresses).zipIdx.map fun (address, index) =>
    if address = "" then reading.hostTargets.getD index (.authority, .socket)
    else (.parameter, .tcp address)

/-- The places that a connection is tried at, if there is one port or as many as places. -/
def Reading.targets (reading : Reading) : List (Origin × Target) :=
  let ports := (lastValue "port" reading.parameters).getD reading.ports
  if ports ≠ "" ∧ (entries ports).length ≠ 1 ∧ (entries ports).length ≠ reading.places.length then
    []
  else reading.places

def Reading.secret (reading : Reading) : Origin × String :=
  match lastValue "password" reading.parameters with
  | some value => (.parameter, value)
  | none => (.authority, reading.password)

def Target.isLocal : Target → Bool
  | .socket => true
  | .tcp host => client.isLoopback host

end Client

section Lists

variable {p : Char → Bool}
variable {mark : Char}

theorem takeWhile_at {front : List Char} {c : Char} (rest : List Char)
    (hfront : ∀ c ∈ front, p c = true) (hc : p c = false) :
    (front ++ c :: rest).takeWhile p = front := by
  rw [List.takeWhile_append_of_pos hfront, List.takeWhile_cons_of_neg (by simp [hc]),
    List.append_nil]

theorem dropWhile_at {front : List Char} {c : Char} (rest : List Char)
    (hfront : ∀ c ∈ front, p c = true) (hc : p c = false) :
    (front ++ c :: rest).dropWhile p = c :: rest := by
  rw [List.dropWhile_append_of_pos hfront, List.dropWhile_cons_of_neg (by simp [hc])]

theorem before_append (front : List Char) {rest : List Char} (h : mark ∉ front) :
    before mark (front ++ rest) = front ++ before mark rest :=
  List.takeWhile_append_of_pos fun _ hc => decide_eq_true fun hmark => h (hmark ▸ hc)

theorem behind_of_not_mem {text : List Char} (h : mark ∉ text) : behind mark text = [] := by
  have hall : ∀ c ∈ text, decide (c ≠ mark) = true :=
    fun c hc => decide_eq_true fun hmark => h (hmark ▸ hc)
  simpa [behind] using congrArg List.tail (@List.dropWhile_append_of_pos _ _ text [] hall)

end Lists

section Schemes

theorem eq_of_mem_schemes {scheme : String} (h : scheme ∈ schemes) :
    scheme = "postgresql" ∨ scheme = "postgres" := by
  simpa [schemes] using h

theorem uriRest_eq_some {text rest : List Char} (h : uriRest text = some rest) :
    ∃ scheme ∈ schemes, text = scheme.toList ++ "://".toList ++ rest := by
  obtain ⟨scheme, hscheme, hdrop⟩ := List.exists_of_findSome?_eq_some h
  obtain ⟨front, rfl, hfront⟩ := List.dropPrefix?_eq_some_iff.mp hdrop
  exact ⟨scheme, hscheme, by rw [eq_of_beq hfront, String.toList_append]⟩

theorem uriRest_scheme {scheme : String} (h : scheme ∈ schemes) (rest : List Char) :
    uriRest (scheme.toList ++ "://".toList ++ rest) = some rest := by
  rcases eq_of_mem_schemes h with rfl | rfl <;> simp [uriRest, schemes, List.dropPrefix?]

theorem splitScheme_scheme {scheme : String} (h : scheme ∈ schemes) (rest : List Char) :
    splitScheme (scheme.toList ++ "://".toList ++ rest) = some (scheme, rest) := by
  rcases eq_of_mem_schemes h with rfl | rfl <;> simp [splitScheme, before, schemes]

theorem clean_of_printable {text : List Char} (h : ∀ c ∈ text, ' ' < c) : clean text = text := by
  have hspace : ∀ c ∈ text, ¬decide (c ≤ ' ') = true := by
    intro c hc
    simpa using h c hc
  have hfront : text.dropWhile (· ≤ ' ') = text :=
    List.dropWhile_eq_self_iff.mpr fun hlength => hspace _ (List.getElem_mem hlength)
  have hback : text.rdropWhile (· ≤ ' ') = text :=
    List.rdropWhile_eq_self_iff.mpr fun hne => hspace _ (List.getLast_mem hne)
  rw [clean, hfront, hback, List.filter_eq_self]
  intro c hc
  have hc := h c hc
  refine decide_eq_true ⟨?_, ?_, ?_⟩ <;> rintro rfl <;> exact absurd hc (by decide)

end Schemes

section Split

/--
A text in which both readers find the same authority: it has no white space or control
characters, at most one `@` before the path and none behind it up to a `/`, and no fragment
in place of a path.
-/
structure Plain (rest : List Char) : Prop where
  printable : ∀ c ∈ rest, ' ' < c
  oneAt : (authorityOf rest).count '@' ≤ 1
  tail : PlainTail (tailOf rest)

theorem credentialsOf_of_not_mem {rest : List Char} (h : '@' ∉ before '/' rest) :
    credentialsOf rest = ([], rest) := by
  refine if_neg fun hat => ?_
  obtain ⟨after, hafter⟩ := List.head?_eq_some_iff.mp hat
  refine h ?_
  rw [← List.takeWhile_append_dropWhile (p := fun c => decide (c ≠ '@' ∧ c ≠ '/')) (l := rest),
    hafter, before_append]
  · simp [before]
  · intro hslash
    simpa using List.mem_takeWhile_imp hslash

theorem credentialsOf_at {userinfo netloc : List Char} (hat : '@' ∉ userinfo)
    (hslash : '/' ∉ userinfo) :
    credentialsOf (userinfo ++ '@' :: netloc) = (userinfo, netloc) := by
  have hall : ∀ c ∈ userinfo, decide (c ≠ '@' ∧ c ≠ '/') = true := by
    intro c hc
    exact decide_eq_true ⟨fun h => hat (h ▸ hc), fun h => hslash (h ▸ hc)⟩
  rw [credentialsOf, takeWhile_at netloc hall rfl, dropWhile_at netloc hall rfl]
  rfl

theorem authorityOf_append_tailOf {rest : List Char} : authorityOf rest ++ tailOf rest = rest :=
  List.takeWhile_append_dropWhile

theorem not_mem_authorityOf {rest : List Char} {c : Char} (h : c ∈ authorityOf rest) :
    c ≠ '/' ∧ c ≠ '?' ∧ c ≠ '#' := by
  simpa using List.mem_takeWhile_imp h

/-- An authority has no `@`, or one that parts it in two. -/
theorem authority_cases {authority : List Char} (h : authority.count '@' ≤ 1) :
    ('@' ∉ authority ∧ userinfoOf authority = [] ∧ hostportOf authority = authority) ∨
      ('@' ∉ userinfoOf authority ∧ '@' ∉ hostportOf authority ∧
        authority = userinfoOf authority ++ '@' :: hostportOf authority) := by
  by_cases hat : '@' ∈ authority
  · obtain ⟨front, back, rfl⟩ := List.append_of_mem hat
    rw [List.count_append, List.count_cons_self] at h
    have hfront : '@' ∉ front := fun hmem => by have := List.count_pos_iff.mpr hmem; omega
    have hback : '@' ∉ back := fun hmem => by have := List.count_pos_iff.mpr hmem; omega
    have hall : ∀ c ∈ back.reverse, decide (c ≠ '@') = true := by
      intro c hc
      exact decide_eq_true fun heq => hback (heq ▸ List.mem_reverse.mp hc)
    have hreverse : (front ++ '@' :: back).reverse = back.reverse ++ '@' :: front.reverse := by
      simp
    have huserinfo : userinfoOf (front ++ '@' :: back) = front := by
      rw [userinfoOf, List.rdropWhile, hreverse, dropWhile_at _ hall rfl]
      simp
    have hhostport : hostportOf (front ++ '@' :: back) = back := by
      rw [hostportOf, List.rtakeWhile, hreverse, takeWhile_at _ hall rfl, List.reverse_reverse]
    rw [huserinfo, hhostport]
    exact .inr ⟨hfront, hback, rfl⟩
  · have hall : ∀ c ∈ authority, decide (c ≠ '@') = true := by
      intro c hc
      exact decide_eq_true fun heq => hat (heq ▸ hc)
    refine .inl ⟨hat, ?_, List.rtakeWhile_eq_self_iff.mpr hall⟩
    rw [userinfoOf, List.rdropWhile_eq_nil_iff.mpr hall, List.dropLast_nil]

/-- Both readers find the same credentials in a plain text. -/
theorem Plain.credentialsOf_eq {rest : List Char} (h : Plain rest) :
    credentialsOf rest =
      (userinfoOf (authorityOf rest), hostportOf (authorityOf rest) ++ tailOf rest) := by
  obtain ⟨hat, huserinfo, hhostport⟩ | ⟨huserinfo, -, hauthority⟩ := authority_cases h.oneAt
  · have hslash : '/' ∉ authorityOf rest := fun hmem => (not_mem_authorityOf hmem).1 rfl
    rw [huserinfo, hhostport, authorityOf_append_tailOf]
    refine credentialsOf_of_not_mem ?_
    rw [← @authorityOf_append_tailOf rest, before_append _ hslash, List.mem_append]
    exact not_or.mpr ⟨hat, h.tail.noAt⟩
  · have hslash : '/' ∉ userinfoOf (authorityOf rest) := by
      intro hmem
      have hin : '/' ∈ authorityOf rest := by
        rw [hauthority]
        exact List.mem_append_left _ hmem
      exact (not_mem_authorityOf hin).1 rfl
    conv_lhs => rw [← @authorityOf_append_tailOf rest, hauthority]
    rw [List.append_assoc, List.cons_append, credentialsOf_at huserinfo hslash]

end Split

section Hosts

/-- A name as it is written in an authority. -/
inductive WrittenHost : List Char → List Char → Prop
  | plain {name : List Char}
      (hname : ∀ c ∈ name, c ≠ '[' ∧ c ≠ ':' ∧ c ≠ ',' ∧ c ≠ '/' ∧ c ≠ '?') :
      WrittenHost name name
  | bracketed {name : List Char}
      (hne : name ≠ []) (hname : ']' ∉ name) :
      WrittenHost ('[' :: (name ++ [']'])) name

/-- A port as it is written behind a host. -/
inductive WrittenPort : List Char → List Char → Prop
  | none : WrittenPort [] []
  | some {port : List Char} (hport : ∀ c ∈ port, c.isDigit = true) : WrittenPort (':' :: port) port

theorem readHosts_take {place next : HostPlace} {c : Char} {host port text : List Char}
    (h : hostStep place c = .take next host port) :
    readHosts place (c :: text) = (readHosts next text).map fun list =>
      { list with hosts := host ++ list.hosts, ports := port ++ list.ports } := by
  rw [readHosts, h]

theorem readHosts_tail {place : HostPlace} {tail : List Char}
    (hplace : place ≠ .opened ∧ place ≠ .inside) (h : PlainTail tail) :
    readHosts place tail = some ⟨[], [], tail⟩ := by
  cases tail with
  | nil => simp [readHosts, hplace]
  | cons c tail =>
    have hc := h.head c rfl
    have hbracket : c ≠ '[' := by rcases hc with rfl | rfl <;> decide
    have hstop : hostStep place c = .stop := by
      cases place <;> simp [hostStep, hc, hbracket] at hplace ⊢
    rw [readHosts, hstop]

theorem readHosts_port {port tail : List Char} (hport : ∀ c ∈ port, c.isDigit = true)
    (h : PlainTail tail) : readHosts .port (port ++ tail) = some ⟨[], port, tail⟩ := by
  induction port with
  | nil => exact readHosts_tail (by decide) h
  | cons c port ih =>
    obtain ⟨hdigit, hrest⟩ := List.forall_mem_cons.mp hport
    have hstep : hostStep .port c = .take .port [] [c] := by
      have hne : ∀ mark ∈ ['/', '?', ','], c ≠ mark := by
        intro mark hmark heq
        have hno : ∀ mark ∈ ['/', '?', ','], mark.isDigit = false := by simp
        rw [heq, hno mark hmark] at hdigit
        cases hdigit
      simp [hostStep, hne '/' (by decide), hne '?' (by decide), hne ',' (by decide)]
    rw [List.cons_append, readHosts_take hstep, ih hrest]
    simp

theorem readHosts_end {place : HostPlace} {written port tail : List Char}
    (hplace : place = .start ∨ place = .closed ∨ place = .host) (hport : WrittenPort written port)
    (h : PlainTail tail) : readHosts place (written ++ tail) = some ⟨[], port, tail⟩ := by
  cases hport with
  | none => exact readHosts_tail (by rcases hplace with rfl | rfl | rfl <;> decide) h
  | some hdigits =>
    have hstep : hostStep place ':' = .take .port [] [] := by
      rcases hplace with rfl | rfl | rfl <;> rfl
    rw [List.cons_append, readHosts_take hstep, readHosts_port hdigits h]
    simp

theorem readHosts_plain {place : HostPlace} {name rest port tail : List Char}
    (hname : ∀ c ∈ name, c ≠ '[' ∧ c ≠ ':' ∧ c ≠ ',' ∧ c ≠ '/' ∧ c ≠ '?')
    (hrest : ∀ place, place = .start ∨ place = .host →
      readHosts place rest = some ⟨[], port, tail⟩)
    (hplace : place = .start ∨ place = .host) :
    readHosts place (name ++ rest) = some ⟨name, port, tail⟩ := by
  induction name generalizing place with
  | nil => exact hrest place hplace
  | cons c name ih =>
    obtain ⟨⟨hbracket, hcolon, hcomma, hslash, hquery⟩, hname⟩ := List.forall_mem_cons.mp hname
    have hstep : hostStep place c = .take .host [c] [] := by
      rcases hplace with rfl | rfl <;>
        simp [hostStep, hbracket, hcolon, hcomma, hslash, hquery]
    rw [List.cons_append, readHosts_take hstep, ih hname (.inr rfl)]
    simp

theorem readHosts_inside {name rest : List Char} {list : HostList} (hname : ']' ∉ name)
    (hrest : readHosts .closed rest = some list) :
    readHosts .inside (name ++ ']' :: rest) = some { list with hosts := name ++ list.hosts } := by
  induction name with
  | nil => simp [readHosts, hostStep, hrest]
  | cons c name ih =>
    obtain ⟨hc, hname⟩ := not_or.mp (mt List.mem_cons.mpr hname)
    have hstep : hostStep .inside c = .take .inside [c] [] := if_neg (Ne.symm hc)
    rw [List.cons_append, readHosts_take hstep, ih hname]
    simp

/-- A host, its port and a plain tail are read back. -/
theorem readHosts_written {host name written port tail : List Char} (hhost : WrittenHost host name)
    (hport : WrittenPort written port) (h : PlainTail tail) :
    readHosts .start (host ++ (written ++ tail)) = some ⟨name, port, tail⟩ := by
  cases hhost with
  | plain hname =>
    refine readHosts_plain hname (fun place hplace => readHosts_end ?_ hport h) (.inl rfl)
    exact hplace.imp_right .inr
  | bracketed hne hname =>
    have hclosed := readHosts_end (.inr (.inl rfl)) hport h
    obtain ⟨c, rest, rfl⟩ := List.exists_cons_of_ne_nil hne
    obtain ⟨hc, hrest⟩ := not_or.mp (mt List.mem_cons.mpr hname)
    have hopened : hostStep .opened c = .take .inside [c] [] := if_neg (Ne.symm hc)
    have htext : '[' :: (c :: rest ++ [']']) ++ (written ++ tail) =
        '[' :: c :: (rest ++ ']' :: (written ++ tail)) := by simp
    have hstart : hostStep .start '[' = .take .opened [] [] := rfl
    rw [htext, readHosts_take hstart, readHosts_take hopened, readHosts_inside hrest hclosed]
    simp

end Hosts

section Targets

theorem mem_hostTargets {reading : Reading} {target : Origin × Target}
    (h : target ∈ reading.hostTargets) :
    ∃ name ∈ entries reading.names.2, target = (reading.names.1, hostTarget name) := by
  obtain ⟨name, hname, htarget⟩ := List.mem_map.mp h
  exact ⟨name, hname, htarget.symm⟩

theorem mem_targets {reading : Reading} {target : Origin × Target} (h : target ∈ reading.targets) :
    target ∈ reading.hostTargets ∨ target = (.authority, .socket) ∨ target.1 = .parameter := by
  have hplaces : target ∈ reading.places := by
    rw [Reading.targets] at h
    split at h
    · cases h
    · exact h
  rw [Reading.places] at hplaces
  split at hplaces
  · exact .inl hplaces
  · split at hplaces
    · cases hplaces
    · obtain ⟨⟨address, index⟩, -, rfl⟩ := List.mem_map.mp hplaces
      dsimp only
      split
      · rw [List.getD_eq_getElem?_getD]
        cases hget : reading.hostTargets[index]? with
        | none => exact .inr (.inl rfl)
        | some target => exact .inl (List.mem_of_getElem? hget)
      · exact .inr (.inr rfl)

theorem names_authority {reading : Reading} (h : reading.names.1 = .authority) :
    reading.names.2 = reading.hosts := by
  rw [Reading.names] at h ⊢
  split
  · next hhost =>
    rw [hhost] at h
    cases h
  · rfl

theorem secret_authority {reading : Reading} {password : String}
    (h : reading.secret = (.authority, password)) : reading.password = password := by
  rw [Reading.secret] at h
  split at h
  · cases h
  · exact congrArg Prod.snd h

end Targets

section Encoding

theorem hostOf_isPart : ∀ (inside : Bool) (text : List Char), hostOf inside text <+: text
  | _, [] => List.nil_prefix
  | inside, c :: text => by
    rw [hostOf]
    split
    · exact List.nil_prefix
    · exact List.cons_prefix_cons.mpr ⟨rfl, hostOf_isPart _ text⟩

theorem head?_drop_hostOf : ∀ (inside : Bool) (text : List Char),
    ∀ c ∈ (text.drop (hostOf inside text).length).head?, c = ':'
  | _, [] => by simp [hostOf]
  | inside, c :: text => by
    rw [hostOf]
    split
    · next hcolon =>
      intro d hd
      rw [← hcolon.1]
      exact (Option.some.inj hd).symm
    · exact head?_drop_hostOf _ text

theorem hexDigit_mem (n : Nat) : hexDigit n ∈ "0123456789ABCDEF".toList := by
  rw [hexDigit, List.getD_eq_getElem?_getD]
  cases hget : "0123456789ABCDEF".toList[n]? with
  | none => decide
  | some digit => exact List.mem_of_getElem? hget

theorem mem_percentEncode {inSet : Char → Bool} {text : List Char} {c : Char}
    (h : c ∈ percentEncode inSet text) :
    c ∈ '%' :: "0123456789ABCDEF".toList ∨ c ∈ text ∧ inSet c = false := by
  obtain ⟨source, hsource, hc⟩ := List.mem_flatMap.mp h
  split at hc
  · obtain ⟨byte, -, hbyte⟩ := List.mem_flatMap.mp hc
    refine .inl ?_
    simp only [percentEncodeByte, List.mem_cons, List.not_mem_nil, or_false] at hbyte
    rcases hbyte with rfl | rfl | rfl
    · exact List.mem_cons_self
    · exact List.mem_cons_of_mem _ (hexDigit_mem _)
    · exact List.mem_cons_of_mem _ (hexDigit_mem _)
  · next hset =>
    obtain rfl := List.mem_singleton.mp hc
    exact .inr ⟨hsource, Bool.eq_false_iff.mpr hset⟩

theorem not_mem_percentEncode {inSet : Char → Bool} {text : List Char} {c : Char}
    (hset : inSet c = true) (hc : c ∉ '%' :: "0123456789ABCDEF".toList) :
    c ∉ percentEncode inSet text := by
  intro h
  rcases mem_percentEncode h with h | ⟨-, h⟩
  · exact hc h
  · rw [hset] at h
    cases h

theorem utf8EncodeChar_ne_nil (c : Char) : String.utf8EncodeChar c ≠ [] := by
  intro h
  have := c.utf8Size_pos
  rw [← String.length_utf8EncodeChar, h] at this
  exact absurd this (by decide)

/-- A text without percent signs was encoded as it is. -/
theorem eq_of_percentEncode {inSet : Char → Bool} {text : List Char}
    (h : '%' ∉ percentEncode inSet text) : percentEncode inSet text = text := by
  induction text with
  | nil => rfl
  | cons c text ih =>
    rw [percentEncode, List.flatMap_cons, List.mem_append, not_or] at h
    rw [percentEncode, List.flatMap_cons]
    split
    · next hset =>
      rw [if_pos hset] at h
      obtain ⟨byte, rest, hbytes⟩ := List.exists_cons_of_ne_nil (utf8EncodeChar_ne_nil c)
      exact absurd (by simp [hbytes, percentEncodeByte]) h.1
    · exact congrArg (c :: ·) (ih h.2)

theorem percentEncode_eq_nil {inSet : Char → Bool} {text : List Char}
    (h : percentEncode inSet text = []) : text = [] := by
  rw [← @eq_of_percentEncode inSet text (by rw [h]; exact List.not_mem_nil), h]

theorem encodeUserinfo_eq_empty {text : List Char} (h : encodeUserinfo text = "") : text = [] :=
  percentEncode_eq_nil (String.ofList_inj.mp (h.trans String.ofList_nil.symm))

end Encoding

end Aiphabee.WriteHost
