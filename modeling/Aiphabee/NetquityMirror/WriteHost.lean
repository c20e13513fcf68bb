import Aiphabee.NetquityMirror.DatabaseUrl
import Mathlib.Data.List.Infix

/-!
# The host that a write goes to

A command that writes asks the parser of URLs for the host of a database URL and refuses
one that is not local, and it takes the password of the authority out of the arguments of
`psql`.  The client library reads the text by its own rules.

The main result, `resolveWriteDatabaseUrl_guard_iff`, says for which URLs both promises
are kept: the guard protects the authority of a text that both readers read alike, and
nothing protects the parameters of its query.
-/

namespace Aiphabee.WriteHost

section Script

structure WriteArgs where
  databaseUrl : Option String := none
  allowRemote : Bool := false

inductive ScriptError
  | missingUrl
  | unparsableUrl
  | remoteHost
  | leakedPassword
deriving DecidableEq

inductive HostClass
  | localHost
  | remoteHost

def localHostnames : List String := ["", "localhost", "127.0.0.1", "::1"]

/-- `hostname.replace(/^\[|\]$/gu, "")`. -/
def withoutBrackets (hostname : String) : String :=
  let front := if hostname.toList.head? = some '[' then hostname.toList.tail else hostname.toList
  String.ofList (if front.getLast? = some ']' then front.dropLast else front)

variable (platform : Platform)

def classifyDatabaseHost (databaseUrl : String) : Except ScriptError HostClass :=
  match parseDatabaseUrl platform databaseUrl with
  | none => .error .unparsableUrl
  | some parsed =>
    if withoutBrackets parsed.hostname ∈ localHostnames then .ok .localHost
    else .ok .remoteHost

def assertLocalOrAllowedRemoteHost (databaseUrl : String) (args : WriteArgs) :
    Except ScriptError Unit :=
  match classifyDatabaseHost platform databaseUrl with
  | .error error => .error error
  | .ok .localHost => .ok ()
  | .ok .remoteHost => if args.allowRemote then .ok () else .error .remoteHost

/-- The environment has the value of `NETQUITY_DATABASE_URL`, if it is set. -/
def resolveWriteDatabaseUrl (environment : Option String) (args : WriteArgs) :
    Except ScriptError String :=
  let url := (args.databaseUrl.or environment).getD ""
  if url = "" then .error .missingUrl
  else
    match assertLocalOrAllowedRemoteHost platform url args with
    | .error error => .error error
    | .ok () => .ok url

structure SplitUrl where
  password : Option String
  urlWithoutPassword : String

def splitDatabaseUrlSecret (databaseUrl : String) : Except ScriptError SplitUrl :=
  match parseDatabaseUrl platform databaseUrl with
  | none => .error .unparsableUrl
  | some url =>
    if url.password = "" then .ok { password := none, urlWithoutPassword := databaseUrl }
    else .ok {
      password := some ((platform.decodeURIComponent url.password).getD url.password)
      urlWithoutPassword := { url with password := "" }.toText }

/-- The arguments of `psql`, and the password in its environment. -/
structure PsqlConnection where
  psqlArgv : List String
  pgPassword : Option String

def buildPsqlConnection (databaseUrl : String) : Except ScriptError PsqlConnection :=
  match splitDatabaseUrlSecret platform databaseUrl with
  | .error error => .error error
  | .ok { password, urlWithoutPassword } =>
    let psqlArgv := [urlWithoutPassword, "-X", "-v", "ON_ERROR_STOP=1"]
    if ∃ secret ∈ password, ∃ arg ∈ psqlArgv, secret.toList <:+: arg.toList then
      .error .leakedPassword
    else .ok { psqlArgv, pgPassword := password }

end Script

/-! What the two promises say, and what they depend on. -/
section Promises

variable {platform : Platform}
variable (client : Client platform)

def OnlyLocal (text : String) : Prop :=
  ∀ reading, readConnection client text = some reading →
    ∀ target ∈ reading.targets, target.2.isLocal client = true

def Carries (text password : String) : Prop :=
  password ≠ "" ∧ ∃ reading, readConnection client text = some reading ∧
    reading.secret.2 = password

/-- The password of a text is in an argument, or the first one has a password still. -/
def Leaks (text : String) (argv : List String) : Prop :=
  (∃ password, Carries client text password ∧ ∃ arg ∈ argv, password.toList <:+: arg.toList) ∨
    ∃ given ∈ argv.head?, ∃ password, Carries client given password

/-- The text, and what `psql` is given for it, lead to local places and leak no password. -/
def Kept (text : String) : Prop :=
  OnlyLocal client text ∧ ∀ connection, buildPsqlConnection platform text = .ok connection →
    (∀ given ∈ connection.psqlArgv.head?, OnlyLocal client given) ∧
      ¬Leaks client text connection.psqlArgv

variable (origin : Origin)

def LocalFrom (text : String) : Prop :=
  ∀ reading, readConnection client text = some reading →
    ∀ target, (origin, target) ∈ reading.targets → target.isLocal client = true

def CarriesFrom (text password : String) : Prop :=
  password ≠ "" ∧ ∃ reading, readConnection client text = some reading ∧
    reading.secret = (origin, password)

def LeaksFrom (text : String) (argv : List String) : Prop :=
  (∃ password, CarriesFrom client origin text password ∧
      ∃ arg ∈ argv, password.toList <:+: arg.toList) ∨
    ∃ given ∈ argv.head?, ∃ password, CarriesFrom client origin given password

/-- No place that is not local, and no password that leaks, is taken from this part. -/
structure SafeFrom (text : String) : Prop where
  places : LocalFrom client origin text
  built : ∀ connection, buildPsqlConnection platform text = .ok connection →
    (∀ given ∈ connection.psqlArgv.head?, LocalFrom client origin given) ∧
      ¬LeaksFrom client origin text connection.psqlArgv

/-- A URI of the client that is plain, and whose password both decoders read as one text. -/
def Alike (text : String) : Prop :=
  ∃ rest, uriRest text.toList = some rest ∧ Plain rest ∧
    let password := behind ':' (userinfoOf (authorityOf rest))
    password ≠ [] → platform.decodeURIComponent (encodeUserinfo password) =
      client.decode (String.ofList password)

variable {client}

theorem onlyLocal_iff {text : String} :
    OnlyLocal client text ↔ ∀ origin, LocalFrom client origin text := by
  constructor
  · exact fun h origin reading hreading target htarget => h reading hreading _ htarget
  · exact fun h reading hreading target htarget => h target.1 reading hreading target.2 htarget

theorem carries_iff {text password : String} :
    Carries client text password ↔ ∃ origin, CarriesFrom client origin text password := by
  constructor
  · rintro ⟨hne, reading, hreading, rfl⟩
    exact ⟨reading.secret.1, hne, reading, hreading, rfl⟩
  · rintro ⟨origin, hne, reading, hreading, hsecret⟩
    exact ⟨hne, reading, hreading, by rw [hsecret]⟩

theorem leaks_iff {text : String} {argv : List String} :
    Leaks client text argv ↔ ∃ origin, LeaksFrom client origin text argv := by
  simp only [Leaks, LeaksFrom, carries_iff, exists_or]
  constructor
  · rintro (⟨password, ⟨origin, hcarries⟩, harg⟩ | ⟨given, hgiven, password, origin, hcarries⟩)
    · exact .inl ⟨origin, password, hcarries, harg⟩
    · exact .inr ⟨origin, given, hgiven, password, hcarries⟩
  · rintro (⟨origin, password, hcarries, harg⟩ | ⟨origin, given, hgiven, password, hcarries⟩)
    · exact .inl ⟨password, ⟨origin, hcarries⟩, harg⟩
    · exact .inr ⟨given, hgiven, password, origin, hcarries⟩

theorem kept_iff {text : String} :
    Kept client text ↔ ∀ origin, SafeFrom client origin text := by
  simp only [Kept, onlyLocal_iff, leaks_iff, not_exists]
  constructor
  · rintro ⟨hplaces, hbuilt⟩ origin
    exact ⟨hplaces origin, fun connection hconnection =>
      ⟨fun given hgiven => (hbuilt connection hconnection).1 given hgiven origin,
        (hbuilt connection hconnection).2 origin⟩⟩
  · intro h
    exact ⟨fun origin => (h origin).places, fun connection hconnection =>
      ⟨fun given hgiven origin => ((h origin).built connection hconnection).1 given hgiven,
        fun origin => ((h origin).built connection hconnection).2⟩⟩

end Promises

section LocalNames

variable {platform : Platform}
variable {client : Client platform}

/-- A name of this machine, or none, as it is written in an authority. -/
structure LocalName (client : Client platform) (written name : List Char) : Prop where
  written : WrittenHost written name
  loopback : name = [] ∨ client.isLoopback (String.ofList name) = true
  plain : ∀ c ∈ name, ' ' < c ∧ c ∉ ['%', ',', '@', '/']

theorem LocalName.not_mem {written name : List Char} (h : LocalName client written name) {c : Char}
    (hc : c = '@' ∨ c = '/') : c ∉ written := by
  have hname : c ∉ name := by
    intro hmem
    have := (h.plain c hmem).2
    rcases hc with rfl | rfl <;> exact this (by decide)
  cases h.written with
  | plain => exact hname
  | bracketed =>
    rcases hc with rfl | rfl <;> simp [hname]

theorem localName_of_mem {name : String} (h : name ∈ ["", "localhost", "127.0.0.1"]) :
    LocalName client name.toList name.toList := by
  have hplain : ∀ name ∈ ["", "localhost", "127.0.0.1"], ∀ c ∈ name.toList,
      c ≠ '[' ∧ c ≠ ':' ∧ c ≠ ',' ∧ c ≠ '/' ∧ c ≠ '?' := by simp
  have hclean : ∀ name ∈ ["", "localhost", "127.0.0.1"], ∀ c ∈ name.toList,
      ' ' < c ∧ c ∉ ['%', ',', '@', '/'] := by simp
  refine ⟨.plain (hplain name h), ?_, hclean name h⟩
  rw [String.ofList_toList]
  rcases List.mem_cons.mp h with rfl | h
  · exact .inl rfl
  · refine .inr (client.loopback_names name ?_)
    rcases List.mem_cons.mp h with rfl | h
    · exact List.mem_cons_self
    · rw [List.mem_singleton.mp h]
      decide

theorem localName_loopback :
    LocalName client ('[' :: ("::1".toList ++ [']'])) "::1".toList := by
  refine ⟨.bracketed (by decide) (by decide), .inr ?_, by simp⟩
  rw [String.ofList_toList]
  exact client.loopback_names "::1" (by decide)

theorem localName_ipv6 {text : String} (h : platform.parseIpv6 text = some "::1") :
    LocalName client ('[' :: (text.toList ++ [']'])) text.toList := by
  obtain ⟨hall, hcolon, -⟩ := platform.parseIpv6_text text _ h
  have hclean : ∀ c ∈ "0123456789abcdefABCDEF:.".toList,
      (' ' < c ∧ c ∉ ['%', ',', '@', '/']) ∧ c ≠ ']' := by simp
  refine ⟨.bracketed (List.ne_nil_of_mem hcolon) fun hmem => ?_, .inr ?_,
    fun c hc => (hclean c (hall c hc)).1⟩
  · exact (hclean _ (hall _ hmem)).2 rfl
  · rw [String.ofList_toList]
    exact client.loopback_ipv6 text h

theorem withoutBrackets_bracketed (address : String) :
    withoutBrackets ("[" ++ address ++ "]") = address := by
  have htext : ("[" ++ address ++ "]").toList = '[' :: (address.toList ++ [']']) := by simp
  simp [withoutBrackets, htext]

theorem withoutBrackets_of_not_mem {hostname : String} (hopen : '[' ∉ hostname.toList)
    (hclose : ']' ∉ hostname.toList) : withoutBrackets hostname = hostname := by
  have hhead : hostname.toList.head? ≠ some '[' := fun h => hopen (List.mem_of_head? h)
  have hlast : hostname.toList.getLast? ≠ some ']' := fun h => hclose (List.mem_of_getLast? h)
  rw [withoutBrackets, if_neg hhead, if_neg hlast, String.ofList_toList]

theorem eq_bracketed {host : List Char} (hopen : host.head? = some '[')
    (hclose : host.getLast? = some ']') : ∃ inner, host = '[' :: (inner ++ [']']) := by
  obtain ⟨rest, rfl⟩ := List.head?_eq_some_iff.mp hopen
  cases rest with
  | nil => simp at hclose
  | cons c rest =>
    rw [List.getLast?_cons_cons] at hclose
    exact ⟨(c :: rest).dropLast, by rw [List.dropLast_append_getLast? _ hclose]⟩

theorem eq_loopback {address : String} (h : address ∈ localHostnames)
    (hcolon : ':' ∈ address.toList) :
    address = "::1" := by
  have hothers : ∀ name ∈ localHostnames, ':' ∈ name.toList → name = "::1" := by decide
  exact hothers address h hcolon

theorem eq_plainName {name : String} (h : name ∈ localHostnames) (hcolon : ':' ∉ name.toList) :
    name ∈ ["", "localhost", "127.0.0.1"] := by
  have hothers : ∀ name ∈ localHostnames, ':' ∉ name.toList →
      name ∈ ["", "localhost", "127.0.0.1"] := by decide
  exact hothers name h hcolon

/-- A name that is kept in no brackets passes for local as it stands only. -/
theorem encodedHost_local {host : List Char} (hhost : host.any isForbiddenHostCode = false)
    (hlocal : withoutBrackets (String.ofList (percentEncode isControl host)) ∈ localHostnames) :
    percentEncode isControl host = host ∧
      String.ofList host ∈ ["", "localhost", "127.0.0.1"] := by
  have hnot : ∀ c, isForbiddenHostCode c = true → c ∉ host := by
    intro c hc hmem
    rw [List.any_eq_false] at hhost
    exact hhost c hmem hc
  have hencoded : ∀ c, isForbiddenHostCode c = true → c ∉ '%' :: "0123456789ABCDEF".toList →
      c ∉ (String.ofList (percentEncode isControl host)).toList := by
    intro c hc hhex hmem
    rw [String.toList_ofList] at hmem
    rcases mem_percentEncode hmem with h | ⟨h, -⟩
    · exact hhex h
    · exact hnot c hc h
  rw [withoutBrackets_of_not_mem (hencoded '[' rfl (by decide)) (hencoded ']' rfl (by decide))]
    at hlocal
  have hpercent : '%' ∉ percentEncode isControl host := by
    have hnone : ∀ name ∈ localHostnames, '%' ∉ name.toList := by decide
    simpa using hnone _ hlocal
  have hsame := eq_of_percentEncode hpercent
  rw [hsame] at hlocal
  refine ⟨hsame, eq_plainName hlocal ?_⟩
  rw [String.toList_ofList]
  exact hnot ':' rfl

/-- A host that passes for local is written as a local name, as it stands and again. -/
theorem parseHost_local {host : List Char} {hostname : String}
    (hparse : parseHost platform host = some hostname)
    (hlocal : withoutBrackets hostname ∈ localHostnames) :
    (∃ name, LocalName client host name) ∧ ∃ name, LocalName client hostname.toList name := by
  rw [parseHost] at hparse
  split at hparse
  · next hopen =>
    split at hparse
    · next hclose =>
      obtain ⟨inner, rfl⟩ := eq_bracketed hopen hclose
      have hinner : ('[' :: (inner ++ [']'])).tail.dropLast = inner := by simp
      rw [hinner] at hparse
      obtain ⟨address, haddress, rfl⟩ := Option.map_eq_some_iff.mp hparse
      rw [withoutBrackets_bracketed] at hlocal
      have hloopback := eq_loopback hlocal (platform.parseIpv6_text _ _ haddress).2.2
      rw [hloopback] at haddress ⊢
      have hname := @localName_ipv6 _ client _ haddress
      rw [String.toList_ofList] at hname
      exact ⟨⟨inner, hname⟩, "::1".toList, localName_loopback⟩
    · cases hparse
  · split at hparse
    · cases hparse
    · next hforbidden =>
      obtain rfl := Option.some.inj hparse
      obtain ⟨hsame, hname⟩ := encodedHost_local (Bool.eq_false_iff.mpr hforbidden) hlocal
      have hwritten := @localName_of_mem _ client _ hname
      rw [hsame, String.toList_ofList] at *
      exact ⟨⟨host, hwritten⟩, host, hwritten⟩

end LocalNames

section Read

variable {platform : Platform}
variable {client : Client platform}

theorem decodePart_name {written name : List Char} (h : LocalName client written name) :
    decodePart client name = some (String.ofList name) := by
  rw [decodePart]
  split
  · next hname => rw [hname, String.ofList_nil]
  · refine client.decode_plain _ fun c hc => ?_
    rw [String.toList_ofList] at hc
    exact ⟨(h.plain c hc).1, fun hpercent => (h.plain c hc).2 (by simp [hpercent])⟩

theorem readUri_written {rest userinfo host name written port tail : List Char}
    (hcredentials : credentialsOf rest = (userinfo, host ++ (written ++ tail)))
    (hname : LocalName client host name) (hport : WrittenPort written port) (htail : PlainTail tail)
    {reading : Reading} (h : readUri client rest = some reading) :
    decodePart client (behind ':' userinfo) = some reading.password ∧
      reading.hosts = String.ofList name := by
  simp only [readUri, hcredentials, readHosts_written hname.written hport htail,
    decodePart_name hname, Option.bind_eq_bind, Option.bind_some, Option.bind_eq_some_iff,
    Option.pure_def, Option.some.injEq] at h
  obtain ⟨user, huser, password, hpassword, ports, hports, dbname, hdbname, parameters,
    hparameters, rfl⟩ := h
  exact ⟨hpassword, rfl⟩

theorem hostTarget_isLocal {written name : List Char} (h : LocalName client written name) :
    (hostTarget (String.ofList name)).isLocal client = true := by
  rw [hostTarget]
  split
  · rfl
  · next hname =>
    rcases h.loopback with rfl | hloopback
    · exact absurd (Or.inl String.ofList_nil) hname
    · exact hloopback

theorem entries_name {written name : List Char} (h : LocalName client written name) :
    entries (String.ofList name) = [String.ofList name] := by
  have hcomma : ∀ c ∈ name, (c == ',') = false := by
    intro c hc
    refine beq_eq_false_iff_ne.mpr fun heq => (h.plain c hc).2 ?_
    simp [heq]
  rw [entries, String.toList_ofList, List.splitOn, List.splitOnP_eq_singleton hcomma]
  rfl

/-- The host of an authority that is one local name leads to local places only. -/
theorem targets_local {written name : List Char} (hname : LocalName client written name)
    {reading : Reading} (hhosts : reading.hosts = String.ofList name) {target : Target}
    (h : (.authority, target) ∈ reading.targets) : target.isLocal client = true := by
  rcases mem_targets h with hhost | hsocket | horigin
  · obtain ⟨entry, hentry, htarget⟩ := mem_hostTargets hhost
    rw [Prod.mk.injEq] at htarget
    rw [names_authority htarget.1.symm, hhosts, entries_name hname] at hentry
    rw [htarget.2, List.mem_singleton.mp hentry]
    exact hostTarget_isLocal hname
  · rw [Prod.mk.injEq] at hsocket
    rw [hsocket.2]
    rfl
  · cases horigin

end Read

section Guard

variable {platform : Platform}
variable {client : Client platform}

/-- The port of a URL as it is written again. -/
def writtenPort (port : String) : List Char :=
  if port = "" then [] else ':' :: port.toList

/-- What is known of a URL that is read from an authority and passes for local. -/
structure LocalUrl (client : Client platform) (rest : List Char) (url : DatabaseUrl) : Prop where
  hostport : ∃ host name written port, hostportOf (authorityOf rest) = host ++ written ∧
    LocalName client host name ∧ WrittenPort written port
  hostname : ∃ name, LocalName client url.hostname.toList name
  port : WrittenPort (writtenPort url.port) url.port.toList
  username : ∃ text, url.username = encodeUserinfo text
  password : url.password = encodeUserinfo (behind ':' (userinfoOf (authorityOf rest)))
  tail : url.tail = String.ofList (platform.normalizeTail (tailOf rest))

theorem parsePort_spec {written : List Char} {text : String} (hcolon : ∀ c ∈ written.head?, c = ':')
    (h : parsePort written.tail = some text) :
    (∃ port, WrittenPort written port) ∧ WrittenPort (writtenPort text) text.toList := by
  have hwritten : (∀ c ∈ written.tail, c.isDigit = true) → ∃ port, WrittenPort written port := by
    intro hdigits
    cases written with
    | nil => exact ⟨[], .none⟩
    | cons c port =>
      obtain rfl := hcolon c rfl
      exact ⟨port, .some hdigits⟩
  rw [parsePort] at h
  split at h
  · next hempty =>
    obtain rfl := Option.some.inj h
    exact ⟨hwritten (by simp [hempty]), .none⟩
  · split at h
    · next hdigits =>
      obtain rfl := Option.some.inj h
      refine ⟨hwritten (List.all_eq_true.mp hdigits.1), ?_⟩
      rw [writtenPort]
      split
      · next hnone =>
        rw [hnone]
        exact .none
      · refine .some fun c hc => ?_
        rw [String.toList_ofList] at hc
        exact Nat.isDigit_of_mem_toDigits (by decide) (by decide) hc
    · cases h

theorem parseAuthority_localUrl {scheme : String} {rest : List Char} {url : DatabaseUrl}
    (h : parseAuthority platform scheme rest = some url)
    (hlocal : withoutBrackets url.hostname ∈ localHostnames) :
    url.scheme = scheme ∧ LocalUrl client rest url := by
  simp only [parseAuthority] at h
  split at h
  · cases h
  · simp only [Option.bind_eq_bind, Option.bind_eq_some_iff, Option.pure_def,
      Option.some.injEq] at h
    obtain ⟨hostname, hhostname, port, hport, rfl⟩ := h
    obtain ⟨⟨name, hname⟩, hwritten⟩ := @parseHost_local _ client _ _ hhostname hlocal
    obtain ⟨⟨number, hnumber⟩, htext⟩ :=
      parsePort_spec (head?_drop_hostOf false _) hport
    have hparts := List.prefix_iff_eq_append.mp
      (hostOf_isPart false (hostportOf (authorityOf rest)))
    exact ⟨rfl, ⟨_, name, _, number, hparts.symm, hname, hnumber⟩, hwritten, htext, ⟨_, rfl⟩,
      rfl, rfl⟩

theorem WrittenPort.not_mem {written port : List Char} (h : WrittenPort written port) {c : Char}
    (hc : c = '@' ∨ c = '/') : c ∉ written := by
  cases h with
  | none => exact List.not_mem_nil
  | some hdigits =>
    intro hmem
    rcases List.mem_cons.mp hmem with heq | hmem
    · rcases hc with rfl | rfl <;> exact absurd heq (by decide)
    · have := hdigits c hmem
      rcases hc with rfl | rfl <;> exact absurd this (by decide)

theorem encodeUserinfo_not_mem {text : List Char} {c : Char} (h : c ∈ ['@', '/', ':']) :
    c ∉ (encodeUserinfo text).toList := by
  rw [encodeUserinfo, String.toList_ofList]
  have hmarks : ∀ c ∈ ['@', '/', ':'],
      inUserinfoSet c = true ∧ c ∉ '%' :: "0123456789ABCDEF".toList := by
    simp [inUserinfoSet]
  exact not_mem_percentEncode (hmarks c h).1 (hmarks c h).2

/-- The client finds the host and no password in a URL that is written without it. -/
theorem LocalUrl.toText_spec {rest : List Char} {url : DatabaseUrl} (h : LocalUrl client rest url)
    (htail : PlainTail (tailOf rest)) (hscheme : url.scheme ∈ schemes) :
    ∃ netloc userinfo, uriRest { url with password := "" }.toText.toList = some netloc ∧
      credentialsOf netloc = (userinfo, url.hostname.toList ++ (writtenPort url.port ++
        platform.normalizeTail (tailOf rest))) ∧ behind ':' userinfo = [] := by
  obtain ⟨name, hname⟩ := h.hostname
  obtain ⟨text, htext⟩ := h.username
  have hplain := platform.plain_normalizeTail _ htail
  have hport : (if url.port = "" then "" else ":" ++ url.port).toList = writtenPort url.port := by
    rw [writtenPort]
    split
    · rfl
    · simp
  by_cases husername : url.username = ""
  · refine ⟨_, [], ?_, credentialsOf_of_not_mem ?_, rfl⟩
    · rw [← uriRest_scheme hscheme]
      simp [DatabaseUrl.toText, husername, hport, h.tail]
    · rw [before_append _ (hname.not_mem (.inr rfl)), before_append _ (h.port.not_mem (.inr rfl))]
      simp only [List.mem_append, not_or]
      exact ⟨hname.not_mem (.inl rfl), h.port.not_mem (.inl rfl), hplain.noAt⟩
  · refine ⟨_, url.username.toList, ?_, credentialsOf_at ?_ ?_, behind_of_not_mem ?_⟩
    · rw [← uriRest_scheme hscheme]
      simp [DatabaseUrl.toText, husername, hport, h.tail]
    · rw [htext]
      exact encodeUserinfo_not_mem (by decide)
    · rw [htext]
      exact encodeUserinfo_not_mem (by decide)
    · rw [htext]
      exact encodeUserinfo_not_mem (by decide)

theorem parse_alike {text : String} {rest : List Char} {url : DatabaseUrl}
    (huri : uriRest text.toList = some rest) (hplain : Plain rest)
    (hparse : parseDatabaseUrl platform text = some url)
    (hlocal : withoutBrackets url.hostname ∈ localHostnames) :
    url.scheme ∈ schemes ∧ LocalUrl client rest url := by
  obtain ⟨scheme, hscheme, htext⟩ := uriRest_eq_some huri
  have hclean : clean text.toList = text.toList := by
    refine clean_of_printable fun c hc => ?_
    have hfront : ∀ scheme ∈ schemes, ∀ c ∈ scheme.toList ++ "://".toList, ' ' < c := by
      simp [schemes, or_imp, forall_and]
    rw [htext] at hc
    rcases List.mem_append.mp hc with hc | hc
    · exact hfront scheme hscheme c hc
    · exact hplain.printable c hc
  rw [parseDatabaseUrl, hclean, htext, splitScheme_scheme hscheme] at hparse
  obtain ⟨rfl, hurl⟩ := @parseAuthority_localUrl _ client _ _ _ hparse hlocal
  exact ⟨hscheme, hurl⟩

/-- A connection is built with the text itself, or without the password of the authority. -/
theorem buildPsqlConnection_eq_ok {text : String} {url : DatabaseUrl} {connection : PsqlConnection}
    (hparse : parseDatabaseUrl platform text = some url)
    (hbuild : buildPsqlConnection platform text = .ok connection) :
    (url.password = "" ∧ connection.psqlArgv.head? = some text) ∨
      (url.password ≠ "" ∧
        connection.psqlArgv.head? = some { url with password := "" }.toText ∧
        ∀ secret, platform.decodeURIComponent url.password = some secret →
          ∀ arg ∈ connection.psqlArgv, ¬secret.toList <:+: arg.toList) := by
  by_cases hpassword : url.password = ""
  · simp only [buildPsqlConnection, splitDatabaseUrlSecret, hparse, if_pos hpassword] at hbuild
    cases hbuild
    exact .inl ⟨hpassword, rfl⟩
  · simp only [buildPsqlConnection, splitDatabaseUrlSecret, hparse, if_neg hpassword] at hbuild
    split at hbuild
    · cases hbuild
    · next hsafe =>
      cases hbuild
      refine .inr ⟨hpassword, rfl, fun secret hsecret arg harg hinfix => ?_⟩
      exact hsafe ⟨secret, by simp [hsecret], arg, harg, hinfix⟩

/-- Nothing that is not local is taken from the authority of a text that both read alike. -/
theorem Alike.safeFrom_authority {text : String} {url : DatabaseUrl} (h : Alike client text)
    (hparse : parseDatabaseUrl platform text = some url)
    (hlocal : withoutBrackets url.hostname ∈ localHostnames) :
    SafeFrom client .authority text := by
  obtain ⟨rest, huri, hplain, hdecode⟩ := h
  obtain ⟨hscheme, hurl⟩ := @parse_alike _ client _ _ _ huri hplain hparse hlocal
  obtain ⟨host, name, written, port, hhostport, hname, hport⟩ := hurl.hostport
  have hcredentials := hplain.credentialsOf_eq
  rw [hhostport, List.append_assoc] at hcredentials
  have hread : ∀ reading, readConnection client text = some reading →
      decodePart client (behind ':' (userinfoOf (authorityOf rest))) = some reading.password ∧
        reading.hosts = String.ofList name := by
    intro reading hreading
    rw [readConnection, huri] at hreading
    exact readUri_written hcredentials hname hport hplain.tail hreading
  have hplaces : LocalFrom client .authority text := fun reading hreading target htarget =>
    targets_local hname (hread reading hreading).2 htarget
  refine ⟨hplaces, fun connection hbuild => ?_⟩
  rcases buildPsqlConnection_eq_ok hparse hbuild with
    ⟨hpassword, hgiven⟩ | ⟨hpassword, hgiven, hsafe⟩
  · have hnone : ∀ password, ¬CarriesFrom client .authority text password := by
      rintro password ⟨hne, reading, hreading, hsecret⟩
      have hblank := (hread reading hreading).1
      rw [encodeUserinfo_eq_empty (hurl.password.symm.trans hpassword), decodePart,
        if_pos rfl, secret_authority hsecret] at hblank
      exact hne (Option.some.inj hblank).symm
    rw [hgiven]
    refine ⟨fun given hsame => ?_, ?_⟩
    · obtain rfl := Option.some.inj hsame
      exact hplaces
    · rintro (⟨password, hcarries, -⟩ | ⟨given, hsame, password, hcarries⟩)
      · exact hnone password hcarries
      · rw [hgiven] at hsame
        obtain rfl := Option.some.inj hsame
        exact hnone password hcarries
  · obtain ⟨netloc, userinfo, hnetloc, hsplit, hcolon⟩ := hurl.toText_spec hplain.tail hscheme
    obtain ⟨hostname, hhostname⟩ := hurl.hostname
    have hagain : ∀ reading,
        readConnection client { url with password := "" }.toText = some reading →
          reading.password = "" ∧ reading.hosts = String.ofList hostname := by
      intro reading hreading
      rw [readConnection, hnetloc] at hreading
      have hparts := readUri_written hsplit hhostname hurl.port
        (platform.plain_normalizeTail _ hplain.tail) hreading
      rw [hcolon, decodePart, if_pos rfl] at hparts
      exact ⟨(Option.some.inj hparts.1).symm, hparts.2⟩
    refine ⟨fun given hsame => ?_, ?_⟩
    · rw [hgiven] at hsame
      obtain rfl := Option.some.inj hsame
      exact fun reading hreading target htarget =>
        targets_local hhostname (hagain reading hreading).2 htarget
    · rintro (⟨password, ⟨hne, reading, hreading, hsecret⟩, arg, harg, hinfix⟩ |
        ⟨given, hsame, password, hne, reading, hreading, hsecret⟩)
      · have hpart := (hread reading hreading).1
        have hsome : behind ':' (userinfoOf (authorityOf rest)) ≠ [] := by
          intro hempty
          rw [hempty, decodePart, if_pos rfl, secret_authority hsecret] at hpart
          exact hne (Option.some.inj hpart).symm
        rw [decodePart, if_neg hsome, secret_authority hsecret, ← hdecode hsome,
          ← hurl.password] at hpart
        exact hsafe password hpart arg harg hinfix
      · rw [hgiven] at hsame
        obtain rfl := Option.some.inj hsame
        exact hne ((secret_authority hsecret).symm.trans (hagain reading hreading).1)

theorem resolveWriteDatabaseUrl_eq_ok {environment : Option String} {args : WriteArgs}
    {databaseUrl : String} (hremote : args.allowRemote = false)
    (h : resolveWriteDatabaseUrl platform environment args = .ok databaseUrl) :
    ∃ url, parseDatabaseUrl platform databaseUrl = some url ∧
      withoutBrackets url.hostname ∈ localHostnames := by
  simp only [resolveWriteDatabaseUrl] at h
  split at h
  · cases h
  · split at h
    · cases h
    · next hassert =>
      rw [← Except.ok.inj h]
      simp only [assertLocalOrAllowedRemoteHost, classifyDatabaseHost, hremote] at hassert
      split at hassert
      · cases hassert
      · next hclass =>
        split at hclass
        · cases hclass
        · next url hurl =>
          refine ⟨url, hurl, ?_⟩
          by_contra hhost
          rw [if_neg hhost] at hclass
          cases hclass
      · simp at hassert

end Guard

def samplePlatform : Platform where
  parseOther _ := none
  parseIpv6 text := if text = "::1" then some "::1" else none
  normalizeTail tail := tail
  decodeURIComponent := some
  parseIpv6_text text address h := by
    split at h
    · next htext =>
      cases h
      rw [htext]
      simp
    · cases h
  plain_normalizeTail _ h := h

def sampleClient : Client samplePlatform where
  decode := some
  isKeyword _ := true
  isLoopback name := ["localhost", "127.0.0.1", "::1"].contains name
  readOther _ := none
  decode_plain _ _ := rfl
  loopback_names := by decide
  loopback_ipv6 text h := by
    simp only [samplePlatform] at h
    split at h
    · next htext =>
      rw [htext]
      decide
    · cases h

/-- What is a fragment for the script is a user and a host for the client. -/
example :
    resolveWriteDatabaseUrl samplePlatform none
        { databaseUrl := some "postgresql://localhost#@db.example/mirror" } =
        .ok "postgresql://localhost#@db.example/mirror" ∧
      (readConnection sampleClient "postgresql://localhost#@db.example/mirror").map
        Reading.targets = some [(.authority, .tcp "db.example")] := by
  decide +kernel

end Aiphabee.WriteHost
