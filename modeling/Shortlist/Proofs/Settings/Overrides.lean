import Shortlist.Proofs.Settings.Port

/-!
# What the overrides do

The overrides either refuse the port of the environment, and then no more than the service's name
has been overridden, or they set four settings and leave all others alone (`override_cases`). The
values that they set depend on the settings before in a way that a second round of the same
overrides does not change (`override_override`).

`override_applies` puts this together: which environments are refused and as which fault, what the
settings are afterwards in either case, and that they are settled then. `override_flag_service` is
about the URL of the flag service. A variable for its host or its port alone brings the default of
the other part along, so the URL keeps the part that is not overridden exactly if that part is the
default one.
-/

namespace Shortlist.Settings

open Shortlist.Text (trim quote)

/-! ## The parts of the overrides -/

/-- The service's name after the overrides, from the one before. -/
def overriddenName (env : Environment) (name : String) : String :=
  (env "OTEL_SERVICE_NAME").getD name

/-- The catalog's address after the overrides, from the one before. -/
def overriddenCatalog (env : Environment) (address : String) : String :=
  (env "PRODUCT_CATALOG_ADDR").getD address

/-- The URL of the flag service after the overrides, from the one before. -/
def overriddenUrl (env : Environment) (url : String) : String :=
  match env "FLAGD_HOST", env "FLAGD_OFREP_PORT" with
  | none, none => url
  | some host, none => flagServiceAt host "8016"
  | none, some port => flagServiceAt "flagd" port
  | some host, some port => flagServiceAt host port

/-- The address to listen on after the overrides, from the one before: the environment has no port,
or one that can be read. -/
inductive OverriddenAddress (env : Environment) (before : String) : String → Prop
  | kept (absent : env "RECOMMENDATION_PORT" = none) : OverriddenAddress env before before
  | port {text : String} {port : Nat} (present : env "RECOMMENDATION_PORT" = some text)
    (writes : Port.Writes (trim text.toList) port) :
    OverriddenAddress env before (listenOn port)

theorem overrideName_eq (env : Environment) (s : Settings) :
    s.overrideName env =
      { s with server.serviceName := overriddenName env s.server.serviceName } := by
  unfold overrideName overriddenName
  cases env "OTEL_SERVICE_NAME" <;> rfl

theorem overrideCatalog_eq (env : Environment) (s : Settings) :
    s.overrideCatalog env =
      { s with catalog.address := overriddenCatalog env s.catalog.address } := by
  unfold overrideCatalog overriddenCatalog
  cases env "PRODUCT_CATALOG_ADDR" <;> rfl

theorem overrideFlagService_eq (env : Environment) (s : Settings) :
    s.overrideFlagService env =
      { s with flags.serviceUrl := overriddenUrl env s.flags.serviceUrl } := by
  unfold overrideFlagService overriddenUrl
  cases env "FLAGD_HOST" <;> cases env "FLAGD_OFREP_PORT" <;> rfl

/-! ## One round of overrides -/

/-- A port that cannot be read ends the overrides behind the service's name. -/
theorem override_of_refused {s : Settings} {env : Environment} {text : String} {p : Port.Problem}
    (hport : env "RECOMMENDATION_PORT" = some text)
    (hread : Port.read (trim text.toList) = .error p) :
    s.override env =
      ({ s with server.serviceName := overriddenName env s.server.serviceName },
        .error (.configuration
          ("invalid RECOMMENDATION_PORT " ++ quote text ++ ": " ++ p.message))) := by
  unfold override overridePort
  simp only [hport, hread, overrideName_eq]

/-- Without such a port all overrides are applied. -/
theorem override_of_address {s : Settings} {env : Environment} {address : String}
    (h : OverriddenAddress env s.server.address address) :
    s.override env =
      ({ s with
          server := { address, serviceName := overriddenName env s.server.serviceName }
          catalog.address := overriddenCatalog env s.catalog.address
          flags.serviceUrl := overriddenUrl env s.flags.serviceUrl },
        .ok ()) := by
  unfold override overridePort
  cases h with
  | kept habsent =>
    simp only [habsent, overrideName_eq, overrideCatalog_eq, overrideFlagService_eq]
  | port hpresent hwrites =>
    simp only [hpresent, Port.read_eq_ok_iff.mpr hwrites, overrideName_eq, overrideCatalog_eq,
      overrideFlagService_eq]

/-- There is no third way. -/
theorem override_cases (s : Settings) (env : Environment) :
    (∃ text p, env "RECOMMENDATION_PORT" = some text ∧
      Port.read (trim text.toList) = .error p) ∨
    ∃ address, OverriddenAddress env s.server.address address := by
  cases hport : env "RECOMMENDATION_PORT" with
  | none => exact Or.inr ⟨_, .kept hport⟩
  | some text =>
    cases hread : Port.read (trim text.toList) with
    | error p => exact Or.inl ⟨text, p, rfl, hread⟩
    | ok port => exact Or.inr ⟨_, .port hport (Port.read_eq_ok_iff.mp hread)⟩

/-- The overrides succeed exactly if they have an address to listen on. -/
theorem override_eq_ok_iff {s : Settings} {env : Environment} :
    (s.override env).2 = .ok () ↔ ∃ address, OverriddenAddress env s.server.address address := by
  constructor
  · intro h
    rcases s.override_cases env with ⟨text, p, hport, hread⟩ | haddress
    · rw [override_of_refused hport hread] at h
      cases h
    · exact haddress
  · rintro ⟨address, h⟩
    rw [override_of_address h]

/-- They have one exactly if the port of the environment, if there is one, can be read. -/
theorem exists_overriddenAddress_iff {env : Environment} {before : String} :
    (∃ address, OverriddenAddress env before address) ↔
      ∀ text, env "RECOMMENDATION_PORT" = some text →
        ∃ port, Port.Writes (trim text.toList) port := by
  constructor
  · rintro ⟨_, habsent | ⟨hpresent, hwrites⟩⟩ text htext
    · rw [habsent] at htext
      cases htext
    · rw [hpresent] at htext
      obtain rfl := Option.some.inj htext
      exact ⟨_, hwrites⟩
  · intro h
    cases hport : env "RECOMMENDATION_PORT" with
    | none => exact ⟨_, .kept hport⟩
    | some text =>
      obtain ⟨port, hwrites⟩ := h text hport
      exact ⟨_, .port hport hwrites⟩

/-! ## A second round -/

@[simp] theorem overriddenName_overriddenName (env : Environment) (name : String) :
    overriddenName env (overriddenName env name) = overriddenName env name := by
  unfold overriddenName
  cases env "OTEL_SERVICE_NAME" <;> rfl

@[simp] theorem overriddenCatalog_overriddenCatalog (env : Environment) (address : String) :
    overriddenCatalog env (overriddenCatalog env address) = overriddenCatalog env address := by
  unfold overriddenCatalog
  cases env "PRODUCT_CATALOG_ADDR" <;> rfl

@[simp] theorem overriddenUrl_overriddenUrl (env : Environment) (url : String) :
    overriddenUrl env (overriddenUrl env url) = overriddenUrl env url := by
  unfold overriddenUrl
  cases env "FLAGD_HOST" <;> cases env "FLAGD_OFREP_PORT" <;> rfl

/-- An overridden address is not overridden by another one. -/
theorem OverriddenAddress.again {env : Environment} {before after : String}
    (h : OverriddenAddress env before after) : OverriddenAddress env after after := by
  cases h with
  | kept habsent => exact .kept habsent
  | port hpresent hwrites => exact .port hpresent hwrites

/-- Overrides that have been applied change nothing when they are applied again, and what went wrong
the first time goes wrong the second. -/
theorem override_override (s : Settings) (env : Environment) :
    (s.override env).1.override env = s.override env := by
  rcases s.override_cases env with ⟨text, p, hport, hread⟩ | ⟨address, haddress⟩
  · rw [override_of_refused hport hread, override_of_refused hport hread]
    simp only [overriddenName_overriddenName]
  · have hagain := haddress.again
    rw [override_of_address haddress, override_of_address hagain]
    simp only [overriddenName_overriddenName, overriddenCatalog_overriddenCatalog,
      overriddenUrl_overriddenUrl]

/-- A port of the environment is the one of the socket address afterwards. -/
theorem socketAddress_of_writes {server : ServerSettings} {cs : List Char} {port : Nat}
    (haddress : server.address = listenOn port) (h : Port.Writes cs port) :
    ∃ address, server.socketAddress = .ok address ∧ address.port.toNat = port := by
  refine ⟨.v4 ⟨0, 0, 0, 0⟩ (UInt16.ofNat port), ?_, ?_⟩
  · unfold ServerSettings.socketAddress
    rw [haddress, parse?_listenOn h.le]
  · have hlt : port < 2 ^ 16 := Nat.lt_of_le_of_lt h.le (by decide)
    exact UInt16.toNat_ofNat_of_lt hlt

/-! ## Which overrides are applied -/

/-- Overrides are applied or refused as a whole, but for the service's name.

They are applied exactly if the environment has no port or one that can be read, which is an
optional plus sign and any number of digits of a value up to 65535, with any blanks around them.
Then the settings differ in no more than the service's name, the address to listen on, the catalog's
address and the URL of the flag service. A port of the environment, whatever the address was
before, makes it the one of all interfaces with this port in its shortest form, and the socket
address that is read from it has exactly this port.

Otherwise the fault is one of the configuration, and the settings differ in no more than the
service's name.

In both cases the settings are settled: a second round of the same overrides leaves them as they are
and has the same outcome. -/
theorem override_applies (s : Settings) (env : Environment) :
    ((s.override env).2 = .ok () ↔
      ∀ text, env "RECOMMENDATION_PORT" = some text →
        ∃ port, Port.Writes (trim text.toList) port) ∧
    ((s.override env).2 = .ok () →
      (∃ address, (s.override env).1 =
        { s with
          server := { address, serviceName := overriddenName env s.server.serviceName }
          catalog.address := overriddenCatalog env s.catalog.address
          flags.serviceUrl := overriddenUrl env s.flags.serviceUrl }) ∧
      (env "RECOMMENDATION_PORT" = none →
        (s.override env).1.server.address = s.server.address) ∧
      ∀ text port, env "RECOMMENDATION_PORT" = some text →
        Port.Writes (trim text.toList) port →
        (s.override env).1.server.address = "0.0.0.0:" ++ toString port ∧
        ∃ address, (s.override env).1.server.socketAddress = .ok address ∧
          address.port.toNat = port) ∧
    (∀ fault, (s.override env).2 = .error fault →
      (∃ text, fault = .configuration text) ∧
      (s.override env).1 =
        { s with server.serviceName := overriddenName env s.server.serviceName }) ∧
    (s.override env).1.override env = s.override env := by
  refine ⟨override_eq_ok_iff.trans exists_overriddenAddress_iff, ?_, ?_, s.override_override env⟩
  · intro happlied
    obtain ⟨address, haddress⟩ := override_eq_ok_iff.mp happlied
    refine ⟨⟨address, by rw [override_of_address haddress]⟩, fun habsent => ?_, ?_⟩
    · rw [override_of_address (.kept habsent)]
    · intro text port hpresent hwrites
      have hserver : (s.override env).1.server.address = listenOn port := by
        rw [override_of_address (.port hpresent hwrites)]
      exact ⟨hserver, socketAddress_of_writes hserver hwrites⟩
  · intro fault hfault
    rcases s.override_cases env with ⟨text, p, hport, hread⟩ | ⟨address, haddress⟩
    · rw [override_of_refused hport hread] at hfault ⊢
      obtain rfl := Except.error.inj hfault
      exact ⟨⟨_, rfl⟩, rfl⟩
    · rw [override_of_address haddress] at hfault
      cases hfault

/-- A port with a sign, leading zeros and blanks around it, over an address that is none. -/
theorem override_applies_of_padded_port :
    let before : Settings := { server := { address := "nowhere", serviceName := "recs" } }
    let env : Environment := fun name =>
      if name = "RECOMMENDATION_PORT" then some "\u0085 +0009100\t"
      else if name = "FLAGD_HOST" then some "flags.internal"
      else none
    (before.override env).1.server.address = "0.0.0.0:" ++ toString 9100 ∧
      ((before.override env).1.override env).2 = .ok () := by
  intro before env
  have hwrites : Port.Writes (trim "\u0085 +0009100\t".toList) 9100 := by
    have htrim : trim "\u0085 +0009100\t".toList = '+' :: ['0', '0', '0', '9', '1', '0', '0'] := by
      decide +kernel
    rw [htrim]
    exact .signed ⟨by decide, List.all_eq_true.mp (by decide), by decide, by decide⟩
  have happlied : (before.override env).2 = .ok () := by
    refine (override_applies before env).1.mpr fun text htext => ?_
    obtain rfl := Option.some.inj htext
    exact ⟨9100, hwrites⟩
  obtain ⟨-, hok, -, hsettled⟩ := override_applies before env
  refine ⟨((hok happlied).2.2 _ 9100 rfl hwrites).1, ?_⟩
  rw [hsettled]
  exact happlied

/-! ## The URL of the flag service -/

theorem flagServiceAt_inj_port {host port other : String} :
    flagServiceAt host port = flagServiceAt host other ↔ port = other := by
  unfold flagServiceAt
  exact String.append_right_inj _

theorem flagServiceAt_inj_host {host other port : String} :
    flagServiceAt host port = flagServiceAt other port ↔ host = other := by
  unfold flagServiceAt
  rw [String.append_left_inj, String.append_left_inj, String.append_right_inj]

/-- The URL of a flag service at a host and a port after overrides that have been applied. With a
host and a port in the environment it has these, and with neither it is the one before. With a host
alone it has the default port, and with a port alone the default host, whatever the URL was before.
So the overrides change just the parts that they name exactly if a part that stands alone comes to
the default of the other. -/
theorem override_flag_service {s : Settings} {env : Environment} {host port : String}
    (hurl : s.flags.serviceUrl = flagServiceAt host port)
    (happlied : (s.override env).2 = .ok ()) :
    (∀ h p, env "FLAGD_HOST" = some h → env "FLAGD_OFREP_PORT" = some p →
      (s.override env).1.flags.serviceUrl = flagServiceAt h p) ∧
    (∀ h, env "FLAGD_HOST" = some h → env "FLAGD_OFREP_PORT" = none →
      (s.override env).1.flags.serviceUrl = flagServiceAt h "8016") ∧
    (∀ p, env "FLAGD_HOST" = none → env "FLAGD_OFREP_PORT" = some p →
      (s.override env).1.flags.serviceUrl = flagServiceAt "flagd" p) ∧
    (env "FLAGD_HOST" = none → env "FLAGD_OFREP_PORT" = none →
      (s.override env).1.flags.serviceUrl = s.flags.serviceUrl) ∧
    ((s.override env).1.flags.serviceUrl =
        flagServiceAt ((env "FLAGD_HOST").getD host) ((env "FLAGD_OFREP_PORT").getD port) ↔
      ((env "FLAGD_HOST").isSome → env "FLAGD_OFREP_PORT" = none → port = "8016") ∧
      (env "FLAGD_HOST" = none → (env "FLAGD_OFREP_PORT").isSome → host = "flagd")) := by
  obtain ⟨address, haddress⟩ := override_eq_ok_iff.mp happlied
  have hafter : (s.override env).1.flags.serviceUrl = overriddenUrl env s.flags.serviceUrl := by
    rw [override_of_address haddress]
  rw [hafter, hurl]
  unfold overriddenUrl
  cases hhost : env "FLAGD_HOST" <;> cases hport : env "FLAGD_OFREP_PORT"
  case none.none => simp
  case none.some p => simpa [flagServiceAt_inj_host] using eq_comm
  case some.none h => simpa [flagServiceAt_inj_port] using eq_comm
  case some.some h p => simp

/-- The URL of a file, with the host that the environment names and the default port. -/
theorem override_flag_service_of_host :
    let before : Settings := { flags := { serviceUrl := flagServiceAt "flags.internal" "9999" } }
    let env : Environment := fun name => if name = "FLAGD_HOST" then some "h" else none
    before.flags.serviceUrl = flagServiceAt "flags.internal" "9999" ∧
      (before.override env).2 = .ok () ∧
      (before.override env).1.flags.serviceUrl = "http://h:8016" := by
  intro before env
  have happlied : (before.override env).2 = .ok () := rfl
  obtain ⟨-, hhost, -⟩ := @override_flag_service before env _ _ rfl happlied
  exact ⟨rfl, happlied, hhost "h" rfl rfl⟩

/-- A part that is not overridden is not kept in general. -/
theorem override_forgets_other_part :
    ¬ ∀ (s : Settings) (env : Environment) (host port : String),
      s.flags.serviceUrl = flagServiceAt host port → (s.override env).2 = .ok () →
      (s.override env).1.flags.serviceUrl =
        flagServiceAt ((env "FLAGD_HOST").getD host) ((env "FLAGD_OFREP_PORT").getD port) := by
  intro h
  have hkept := h { flags := { serviceUrl := flagServiceAt "flags.internal" "9999" } }
    (fun name => if name = "FLAGD_HOST" then some "h" else none) "flags.internal" "9999" rfl rfl
  exact absurd (flagServiceAt_inj_port.mp hkept) (by decide)

end Shortlist.Settings
