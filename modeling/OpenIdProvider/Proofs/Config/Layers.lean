/-
  Where the fields of a configuration come from. A `Layer` is what one source says about them: the
  command line, the environment, or the document of a file. A field of the configuration that is
  loaded is what the first of these three says that says anything about it, and its default if none
  does (`load_layers`). For the document this needs that each field of a record is set by the entry
  of its own name and by no other (`Owns`), and that a configuration is read from the well-formed
  documents and from no others.
-/
import OpenIdProvider.Config.Load
import OpenIdProvider.Proofs.Config.Variables
import OpenIdProvider.Proofs.Yaml.Record

namespace OpenIdProvider.Config

open Yaml (Node)
open Yaml.Node (Reads own_of_map keep_of_map follows_of_map follows_reads)

/-! ## Layers -/

/-- What one source says about the fields of a configuration; it may leave out any of them. -/
structure Layer where
  bindAddress : Option String
  publicUrl : Option String
  clientId : Option String
  clientSecret : Option String
  accessTtl : Option Nat
  refreshTtl : Option Nat
  privateKeyFile : Option String
  level : Option String
  jsonFormat : Option Bool
  users : Option (List User)

namespace Layer

/-- Each field is what the upper layer says, or else what the lower one says. -/
def above (upper lower : Layer) : Layer where
  bindAddress := upper.bindAddress.or lower.bindAddress
  publicUrl := upper.publicUrl.or lower.publicUrl
  clientId := upper.clientId.or lower.clientId
  clientSecret := upper.clientSecret.or lower.clientSecret
  accessTtl := upper.accessTtl.or lower.accessTtl
  refreshTtl := upper.refreshTtl.or lower.refreshTtl
  privateKeyFile := upper.privateKeyFile.or lower.privateKeyFile
  level := upper.level.or lower.level
  jsonFormat := upper.jsonFormat.or lower.jsonFormat
  users := upper.users.or lower.users

/-- The configuration of a layer: what it leaves out has its default. -/
def config (l : Layer) : Config where
  server := ⟨l.bindAddress.getD "127.0.0.1:8080", l.publicUrl⟩
  client := ⟨l.clientId, l.clientSecret⟩
  tokens := ⟨l.accessTtl.getD 600, l.refreshTtl.getD 3600⟩
  privateKeyFile := l.privateKeyFile
  logging := ⟨l.level.getD "info", l.jsonFormat.getD false⟩
  users := l.users.getD []

/-- What a document says: each field is read from the entry of its name in its section. -/
def ofDocument (doc : Node) : Layer where
  bindAddress := (doc.entry? "server" "bind_address").bind Node.text?
  publicUrl := (doc.entry? "server" "public_url").bind Node.presentText?
  clientId := (doc.entry? "client" "client_id").bind Node.presentText?
  clientSecret := (doc.entry? "client" "client_secret").bind Node.presentText?
  accessTtl := (doc.entry? "tokens" "access_ttl_seconds").bind Node.nat64?
  refreshTtl := (doc.entry? "tokens" "refresh_ttl_seconds").bind Node.nat64?
  privateKeyFile := (doc.entry? "keys" "private_key_file").bind Node.presentText?
  level := (doc.entry? "logging" "level").bind Node.text?
  jsonFormat := (doc.entry? "logging" "json_format").bind Node.bool?
  users := (doc.member? "users").bind (Node.list? User.ofNode?)

/-- What the variables of the environment say. A number or a flag counts if the text of its
variable stands for one. -/
structure OfEnvironment (env : Environment) (l : Layer) : Prop where
  bindAddress : l.bindAddress = env "MOCKOIDC_BIND_ADDRESS"
  publicUrl : l.publicUrl = env "MOCKOIDC_PUBLIC_URL"
  clientId : l.clientId = env "MOCKOIDC_CLIENT_ID"
  clientSecret : l.clientSecret = env "MOCKOIDC_CLIENT_SECRET"
  accessTtl : ∀ n, l.accessTtl = some n ↔
    ∃ text, env "MOCKOIDC_ACCESS_TTL_SECONDS" = some text ∧ IsNat64Text n text
  refreshTtl : ∀ n, l.refreshTtl = some n ↔
    ∃ text, env "MOCKOIDC_REFRESH_TTL_SECONDS" = some text ∧ IsNat64Text n text
  privateKeyFile : l.privateKeyFile = env "MOCKOIDC_PRIVATE_KEY_FILE"
  level : l.level = env "MOCKOIDC_LOG_LEVEL"
  jsonFormat : ∀ b, l.jsonFormat = some b ↔
    ∃ text, env "MOCKOIDC_JSON_LOGS" = some text ∧ IsFlagText b text
  users : l.users = none

/-- What is read from the variables of the environment. -/
def readEnvironment (env : Environment) : Layer where
  bindAddress := env "MOCKOIDC_BIND_ADDRESS"
  publicUrl := env "MOCKOIDC_PUBLIC_URL"
  clientId := env "MOCKOIDC_CLIENT_ID"
  clientSecret := env "MOCKOIDC_CLIENT_SECRET"
  accessTtl := (env "MOCKOIDC_ACCESS_TTL_SECONDS").bind nat64OfText?
  refreshTtl := (env "MOCKOIDC_REFRESH_TTL_SECONDS").bind nat64OfText?
  privateKeyFile := env "MOCKOIDC_PRIVATE_KEY_FILE"
  level := env "MOCKOIDC_LOG_LEVEL"
  jsonFormat := (env "MOCKOIDC_JSON_LOGS").bind flagOfText?
  users := none

/-- A layer that says nothing. -/
def silent : Layer := ⟨none, none, none, none, none, none, none, none, none, none⟩

def ofServeOptions (o : CommandLine.ServeOptions) : Layer :=
  { silent with
    bindAddress := o.bind
    publicUrl := o.publicUrl
    clientId := o.clientId
    clientSecret := o.clientSecret }

/-- What a command line says. Only the command to serve has switches for the listener and for the
client. -/
def ofCommandLine (line : CommandLine) : Layer :=
  { match line.command with
    | .serve options => ofServeOptions options
    | .keygen _ => silent with
    level := if line.verbose then some "debug" else none }

end Layer

/-! ## The environment -/

/-- What is read is what the variables say. -/
theorem ofEnvironment_readEnvironment (env : Environment) :
    Layer.OfEnvironment env (Layer.readEnvironment env) := by
  have hnumber (name : String) (n : Nat) : (env name).bind nat64OfText? = some n ↔
      ∃ text, env name = some text ∧ IsNat64Text n text := by
    simp only [Option.bind_eq_some_iff, nat64OfText?_eq_some_iff]
  have hflag (name : String) (b : Bool) : (env name).bind flagOfText? = some b ↔
      ∃ text, env name = some text ∧ IsFlagText b text := by
    simp only [Option.bind_eq_some_iff, flagOfText?_eq_some_iff]
  exact ⟨rfl, rfl, rfl, rfl, hnumber _, hnumber _, rfl, rfl, hflag _, rfl⟩

/-! ## Documents -/

/-- A part of a section is what its own entry says. -/
theorem part_of_sectionOf? {α β : Type} {fields : Node.Fields α} {start a : α} {n : Node}
    {name : String} {read : Node → Option β} (get : α → β)
    (hsection : sectionOf? fields start n = some a) (howns : Node.Owns name get read fields) :
    (n.member? name).elim (some (get start)) read = some (get a) := howns.record? hsection

theorem listener_of_ofNode? {n : Node} {l : Listener} (h : Listener.ofNode? n = some l) :
    (n.member? "bind_address").elim (some "127.0.0.1:8080") Node.text? = some l.bindAddress ∧
      (n.member? "public_url").elim (some none) (Node.optional? Node.text?) = some l.publicUrl :=
  ⟨part_of_sectionOf? Listener.bindAddress h
      (.here (own_of_map fun _ => rfl) (.cons (keep_of_map fun _ => rfl) .nil)),
    part_of_sectionOf? Listener.publicUrl h
      (.there (by decide) (keep_of_map fun _ => rfl) (.here (own_of_map fun _ => rfl) .nil))⟩

theorem client_of_ofNode? {n : Node} {l : Client} (h : Client.ofNode? n = some l) :
    (n.member? "client_id").elim (some none) (Node.optional? Node.text?) = some l.clientId ∧
      (n.member? "client_secret").elim (some none) (Node.optional? Node.text?) =
        some l.clientSecret :=
  ⟨part_of_sectionOf? Client.clientId h
      (.here (own_of_map fun _ => rfl) (.cons (keep_of_map fun _ => rfl) .nil)),
    part_of_sectionOf? Client.clientSecret h
      (.there (by decide) (keep_of_map fun _ => rfl) (.here (own_of_map fun _ => rfl) .nil))⟩

theorem lifetimes_of_ofNode? {n : Node} {l : Lifetimes} (h : Lifetimes.ofNode? n = some l) :
    (n.member? "access_ttl_seconds").elim (some 600) Node.nat64? = some l.accessTtl ∧
      (n.member? "refresh_ttl_seconds").elim (some 3600) Node.nat64? = some l.refreshTtl :=
  ⟨part_of_sectionOf? Lifetimes.accessTtl h
      (.here (own_of_map fun _ => rfl) (.cons (keep_of_map fun _ => rfl) .nil)),
    part_of_sectionOf? Lifetimes.refreshTtl h
      (.there (by decide) (keep_of_map fun _ => rfl) (.here (own_of_map fun _ => rfl) .nil))⟩

theorem keyFile_of_keyFileOfNode? {n : Node} {path : Option String}
    (h : keyFileOfNode? n = some path) :
    (n.member? "private_key_file").elim (some none) (Node.optional? Node.text?) = some path :=
  part_of_sectionOf? id h (.here (fun h => h) .nil)

theorem logging_of_ofNode? {n : Node} {l : Logging} (h : Logging.ofNode? n = some l) :
    (n.member? "level").elim (some "info") Node.text? = some l.level ∧
      (n.member? "json_format").elim (some false) Node.bool? = some l.jsonFormat :=
  ⟨part_of_sectionOf? Logging.level h
      (.here (own_of_map fun _ => rfl) (.cons (keep_of_map fun _ => rfl) .nil)),
    part_of_sectionOf? Logging.jsonFormat h
      (.there (by decide) (keep_of_map fun _ => rfl) (.here (own_of_map fun _ => rfl) .nil))⟩

theorem sections_of_ofNode? {n : Node} {c : Config} (h : ofNode? n = some c) :
    (n.member? "server").elim (some {}) Listener.ofNode? = some c.server ∧
      (n.member? "client").elim (some {}) Client.ofNode? = some c.client ∧
      (n.member? "tokens").elim (some {}) Lifetimes.ofNode? = some c.tokens ∧
      (n.member? "keys").elim (some none) keyFileOfNode? = some c.privateKeyFile ∧
      (n.member? "logging").elim (some {}) Logging.ofNode? = some c.logging ∧
      (n.member? "users").elim (some []) (Node.list? User.ofNode?) = some c.users := by
  refine ⟨part_of_sectionOf? Config.server h ?_, part_of_sectionOf? Config.client h ?_,
    part_of_sectionOf? Config.tokens h ?_, part_of_sectionOf? Config.privateKeyFile h ?_,
    part_of_sectionOf? Config.logging h ?_, part_of_sectionOf? Config.users h ?_⟩
  all_goals
    repeat first
      | exact .nil
      | refine .here (own_of_map fun _ => rfl) ?_
      | refine .there (by decide) (keep_of_map fun _ => rfl) ?_
      | refine .cons (keep_of_map fun _ => rfl) ?_

/-- What is read from the entry of a section, or the default of the section. -/
theorem eq_getD_of_elim {α β : Type} {doc : Node} {part name : String}
    {readPart : Node → Option α} {start a : α} (get : α → β) {read : Node → Option β}
    (hpart : (doc.member? part).elim (some start) readPart = some a)
    (hentry : ∀ n a, readPart n = some a →
      (n.member? name).elim (some (get start)) read = some (get a)) :
    get a = ((doc.entry? part name).bind read).getD (get start) := by
  unfold Node.entry?
  cases hmember : doc.member? part with
  | none =>
    rw [hmember] at hpart
    cases hpart
    rfl
  | some n =>
    rw [hmember] at hpart
    have h := hentry n a hpart
    rw [Option.bind_some]
    cases hname : n.member? name with
    | none =>
      rw [hname] at h
      exact (Option.some.inj h).symm
    | some v =>
      rw [hname] at h
      rw [Option.bind_some, show read v = some (get a) from h]
      rfl

/-- The same for an entry that may be null. -/
theorem eq_bind_of_elim {α : Type} {doc : Node} {part name : String}
    {readPart : Node → Option α} {start a : α} (get : α → Option String) (hstart : get start = none)
    (hpart : (doc.member? part).elim (some start) readPart = some a)
    (hentry : ∀ n a, readPart n = some a →
      (n.member? name).elim (some none) (Node.optional? Node.text?) = some (get a)) :
    get a = (doc.entry? part name).bind Node.presentText? := by
  rw [eq_getD_of_elim get hpart (hstart ▸ hentry), hstart]
  cases doc.entry? part name with
  | none => rfl
  | some n =>
    show (n.optional? Node.text?).getD none = (n.optional? Node.text?).join
    cases n.optional? Node.text? <;> rfl

/-- A document is read as what its own layer says. -/
theorem eq_config_of_ofNode? {doc : Node} {c : Config} (h : ofNode? doc = some c) :
    c = (Layer.ofDocument doc).config := by
  obtain ⟨hserver, hclient, htokens, hkeys, hlogging, husers⟩ := sections_of_ofNode? h
  have haddress := eq_getD_of_elim Listener.bindAddress hserver fun _ _ h =>
    (listener_of_ofNode? h).1
  have hurl := eq_bind_of_elim Listener.publicUrl rfl hserver fun _ _ h =>
    (listener_of_ofNode? h).2
  have hid := eq_bind_of_elim Client.clientId rfl hclient fun _ _ h => (client_of_ofNode? h).1
  have hsecret := eq_bind_of_elim Client.clientSecret rfl hclient fun _ _ h =>
    (client_of_ofNode? h).2
  have haccess := eq_getD_of_elim Lifetimes.accessTtl htokens fun _ _ h =>
    (lifetimes_of_ofNode? h).1
  have hrefresh := eq_getD_of_elim Lifetimes.refreshTtl htokens fun _ _ h =>
    (lifetimes_of_ofNode? h).2
  have hfile := eq_bind_of_elim id rfl hkeys fun _ _ h => keyFile_of_keyFileOfNode? h
  have hlevel := eq_getD_of_elim Logging.level hlogging fun _ _ h => (logging_of_ofNode? h).1
  have hformat := eq_getD_of_elim Logging.jsonFormat hlogging fun _ _ h =>
    (logging_of_ofNode? h).2
  have husers' : c.users = ((doc.member? "users").bind (Node.list? User.ofNode?)).getD [] := by
    cases hmember : doc.member? "users" with
    | none =>
      rw [hmember] at husers
      exact (Option.some.inj husers).symm
    | some n =>
      rw [hmember] at husers
      rw [Option.bind_some, show Node.list? User.ofNode? n = some c.users from husers]
      rfl
  obtain ⟨⟨_, _⟩, ⟨_, _⟩, ⟨_, _⟩, _, ⟨_, _⟩, _⟩ := c
  subst haddress hurl hid hsecret haccess hrefresh hfile hlevel hformat husers'
  rfl

/-! ## Documents that are read -/

/-- What may stand in the sections of a configuration. -/
def listenerRules : Node.Rules :=
  [("bind_address", Reads Node.text?), ("public_url", Reads (Node.optional? Node.text?))]

def clientRules : Node.Rules :=
  [("client_id", Reads (Node.optional? Node.text?)),
    ("client_secret", Reads (Node.optional? Node.text?))]

def lifetimeRules : Node.Rules :=
  [("access_ttl_seconds", Reads Node.nat64?), ("refresh_ttl_seconds", Reads Node.nat64?)]

def keyRules : Node.Rules := [("private_key_file", Reads (Node.optional? Node.text?))]

def loggingRules : Node.Rules :=
  [("level", Reads Node.text?), ("json_format", Reads Node.bool?)]

/-- Documents of configurations: each section and each field in it stands there at most once, with a
value of its kind. -/
def WellFormed : Node → Prop :=
  Node.Obeys
    [("server", Node.Obeys listenerRules), ("client", Node.Obeys clientRules),
      ("tokens", Node.Obeys lifetimeRules), ("keys", Node.Obeys keyRules),
      ("logging", Node.Obeys loggingRules), ("users", Reads (Node.list? User.ofNode?))]

theorem isSome_sectionOf?_iff {α : Type} {fields : Node.Fields α} {rules : Node.Rules}
    (h : Node.Follow fields rules) {start : α} {n : Node} :
    (sectionOf? fields start n).isSome = true ↔ n.Obeys rules := by
  rw [sectionOf?, Option.isSome_map]
  exact h.isSome_record?_iff

/-- The configurations are read from the well-formed documents. -/
theorem isSome_ofNode?_iff (doc : Node) : (ofNode? doc).isSome = true ↔ WellFormed doc := by
  have hserver (n : Node) : (Listener.ofNode? n).isSome = true ↔ n.Obeys listenerRules :=
    isSome_sectionOf?_iff (.cons (follows_reads _ _ _) (.cons (follows_reads _ _ _) .nil))
  have hclient (n : Node) : (Client.ofNode? n).isSome = true ↔ n.Obeys clientRules :=
    isSome_sectionOf?_iff (.cons (follows_reads _ _ _) (.cons (follows_reads _ _ _) .nil))
  have htokens (n : Node) : (Lifetimes.ofNode? n).isSome = true ↔ n.Obeys lifetimeRules :=
    isSome_sectionOf?_iff (.cons (follows_reads _ _ _) (.cons (follows_reads _ _ _) .nil))
  have hkeys (n : Node) : (keyFileOfNode? n).isSome = true ↔ n.Obeys keyRules :=
    isSome_sectionOf?_iff (.cons ⟨rfl, fun _ _ => Iff.rfl⟩ .nil)
  have hlogging (n : Node) : (Logging.ofNode? n).isSome = true ↔ n.Obeys loggingRules :=
    isSome_sectionOf?_iff (.cons (follows_reads _ _ _) (.cons (follows_reads _ _ _) .nil))
  exact isSome_sectionOf?_iff (.cons (follows_of_map hserver _ _)
    (.cons (follows_of_map hclient _ _) (.cons (follows_of_map htokens _ _)
      (.cons (follows_of_map hkeys _ _) (.cons (follows_of_map hlogging _ _)
        (.cons (follows_reads _ _ _) .nil))))))

/-! ## Precedence -/

theorem withEnvironment_config (l : Layer) (env : Environment) :
    l.config.withEnvironment env = ((Layer.readEnvironment env).above l).config := by
  unfold withEnvironment Layer.config Layer.above Layer.readEnvironment
  congr 1
  · cases env "MOCKOIDC_BIND_ADDRESS" <;> cases env "MOCKOIDC_PUBLIC_URL" <;> rfl
  · cases env "MOCKOIDC_CLIENT_ID" <;> cases env "MOCKOIDC_CLIENT_SECRET" <;> rfl
  · cases (env "MOCKOIDC_ACCESS_TTL_SECONDS").bind nat64OfText? <;>
      cases (env "MOCKOIDC_REFRESH_TTL_SECONDS").bind nat64OfText? <;> rfl
  · cases env "MOCKOIDC_LOG_LEVEL" <;> cases (env "MOCKOIDC_JSON_LOGS").bind flagOfText? <;> rfl

theorem withCommandLine_config (l : Layer) (line : CommandLine) :
    l.config.withCommandLine line = ((Layer.ofCommandLine line).above l).config := by
  obtain ⟨path, verbose, command⟩ := line
  cases command with
  | keygen out => cases verbose <;> rfl
  | serve options =>
    obtain ⟨bind, _, _, _⟩ := options
    cases verbose <;> cases bind <;> rfl

/-! ## Loading -/

/-- What a file comes to: a layer, or the error with which it is refused. -/
inductive Yields (file : File) : Except ConfigError Layer → Prop
  | missing (absent : file.isPresent = false) : Yields file (.ok .silent)
  | document {text : String} {doc : Node} (present : file.isPresent = true)
      (text_eq : file.text = .ok text) (document_eq : Node.ofText? text = some doc)
      (wellFormed : WellFormed doc) : Yields file (.ok (.ofDocument doc))
  | unreadable {e : FileError} (present : file.isPresent = true) (text_eq : file.text = .error e) :
      Yields file (.error (.unreadable e))
  | illFormed {text : String} (present : file.isPresent = true) (text_eq : file.text = .ok text)
      (not_wellFormed : ∀ doc, Node.ofText? text = some doc → ¬ WellFormed doc) :
      Yields file (.error .illFormed)

/-- A file comes to one thing. -/
theorem Yields.unique {file : File} {x y : Except ConfigError Layer} (hx : Yields file x)
    (hy : Yields file y) : x = y := by
  cases hx <;> cases hy <;> simp_all

/-- What is read from a file is what it comes to. -/
theorem exists_yields (file : File) :
    ∃ layer, Yields file layer ∧ ofFile file = layer.map Layer.config := by
  unfold ofFile
  cases hpresent : file.isPresent with
  | false => exact ⟨_, .missing hpresent, rfl⟩
  | true =>
    simp only [if_true]
    cases htext : file.text with
    | error e => exact ⟨_, .unreadable hpresent htext, rfl⟩
    | ok text =>
      simp only [ofYaml?]
      cases hdoc : Node.ofText? text with
      | none =>
        refine ⟨_, .illFormed hpresent htext fun doc h => ?_, rfl⟩
        rw [hdoc] at h
        cases h
      | some doc =>
        have hwellFormed := isSome_ofNode?_iff doc
        rw [Option.bind_some]
        cases hc : ofNode? doc with
        | none =>
          rw [hc] at hwellFormed
          refine ⟨_, .illFormed hpresent htext fun doc' h hobeys => ?_, rfl⟩
          rw [hdoc] at h
          cases h
          exact Bool.false_ne_true (hwellFormed.2 hobeys)
        | some c =>
          rw [hc] at hwellFormed
          refine ⟨_, .document hpresent htext hdoc (hwellFormed.1 rfl), ?_⟩
          rw [eq_config_of_ofNode? hc]
          rfl

/-- A configuration that is loaded has in each field what the first of three layers says that says
anything about it: the command line, the environment and the file; and the default if none does.
A file that is refused is refused whatever the others say. -/
theorem load_layers (file : File) :
    ∃ layer, Yields file layer ∧ (∀ other, Yields file other → other = layer) ∧
      ∀ env, ∃ said, Layer.OfEnvironment env said ∧ ∀ line, load file env line = layer.map fun l =>
        ((Layer.ofCommandLine line).above (said.above l)).config := by
  obtain ⟨layer, hyields, hfile⟩ := exists_yields file
  refine ⟨layer, hyields, fun other hother => hother.unique hyields, fun env =>
    ⟨Layer.readEnvironment env, ofEnvironment_readEnvironment env, fun line => ?_⟩⟩
  unfold load
  rw [hfile]
  cases layer with
  | error e => rfl
  | ok l =>
    show Except.ok ((l.config.withEnvironment env).withCommandLine line) = _
    rw [withEnvironment_config, withCommandLine_config]
    rfl

end OpenIdProvider.Config
