import GuestNat.Host.Rehearsal
import GuestNat.Proofs.FailFast
import GuestNat.Proofs.SettingsFiles

/-!
# Layers of settings

Each setting comes from the topmost layer that gives it: the overrides, the settings file, the
built-in values. What lies below has no say, not even about the fault.

* `Topmost`: the value of the topmost layer that has one;
* `Settings.Selected`: the settings that the layers give together;
* `resolve_eq_ok_iff`, `resolve_eq_error_iff`: settings are resolved to those, or there is a fault
  of the subnet named on top or of the selected names;
* `resolve_congr`: a file matters only in what the overrides leave open;
* `resolve_overrides`: settings spelled out on top are resolved to themselves;
* `Procedure.ends_proper`: with proper interfaces only a step can fail;
* `settings_are_layered`: all of it together.
-/

namespace GuestNat

/-! ## Layers -/

/-- The value of the topmost layer that has one. -/
inductive Topmost {α : Type} (builtIn : α) : Option α → Option α → α → Prop
  | override (value : α) (file : Option α) : Topmost builtIn (some value) file value
  | file (value : α) : Topmost builtIn none (some value) value
  | builtIn : Topmost builtIn none none builtIn

/-- The subnet that a text on top names, and none where there is no text. -/
inductive Subnet.Given : Option String → Option Subnet → Prop
  | none : Given none none
  | text {cidr : String} {subnet : Subnet} (h : Subnet.parse cidr = .ok subnet) :
      Given (some cidr) (some subnet)

/-- The settings that the layers give together. -/
structure Settings.Selected (overrides : Overrides) (file : FileSettings) (settings : Settings) :
    Prop where
  tap : Topmost ({} : Settings).net.tap overrides.tap file.tap settings.net.tap
  uplink : Topmost ({} : Settings).net.uplink overrides.uplink file.uplink settings.net.uplink
  subnet : ∃ given, Subnet.Given overrides.subnet given ∧
    Topmost ({} : Settings).net.subnet given file.subnet settings.net.subnet
  iptables : Topmost ({} : Settings).iptables overrides.iptables file.iptables settings.iptables

/-- The overrides leave a field to the layers below. -/
def Overrides.Leaves (overrides : Overrides) : Field → Prop
  | .tap => overrides.tap = none
  | .uplink => overrides.uplink = none
  | .subnet => overrides.subnet = none
  | .iptables => overrides.iptables = none

/-- The settings of a file that was read, or of none. -/
def FileSettings.Loaded (file : FileSettings) : Prop :=
  file = {} ∨ ∃ path content, FileSettings.ofContent path content = .ok file

/-- The overrides that spell out all settings. -/
def Settings.overrides (settings : Settings) : Overrides where
  tap := some settings.net.tap
  uplink := some settings.net.uplink
  subnet := some settings.net.subnet.text
  iptables := some settings.iptables

theorem topmost_iff {α : Type} {builtIn value : α} {override file : Option α} :
    Topmost builtIn override file value ↔ value = (override <|> file).getD builtIn := by
  constructor
  · rintro (_ | _ | _) <;> rfl
  · rintro rfl
    cases override with
    | some value => exact .override value file
    | none =>
        cases file with
        | some value => exact .file value
        | none => exact .builtIn

/-! ## Resolving -/

namespace Settings

variable {overrides : Overrides} {file file' : FileSettings} {settings : Settings}
  {fault : ConfigFault} {subnet : Subnet}

theorem resolveSubnet_of_none (h : overrides.subnet = none) :
    resolveSubnet overrides file = .ok (file.subnet.getD ({} : Settings).net.subnet) := by
  unfold resolveSubnet
  rw [h]

theorem resolveSubnet_of_some {cidr : String} (h : overrides.subnet = some cidr) :
    resolveSubnet overrides file = (Subnet.parse cidr).mapError .subnet := by
  unfold resolveSubnet
  rw [h]

theorem resolveSubnet_eq_ok_iff : resolveSubnet overrides file = .ok subnet ↔
    ∃ given, Subnet.Given overrides.subnet given ∧
      Topmost ({} : Settings).net.subnet given file.subnet subnet := by
  -- an override is parsed here; a file's subnet was parsed when the file was loaded
  cases hsubnet : overrides.subnet with
  | none =>
      rw [resolveSubnet_of_none hsubnet, Except.ok.injEq]
      constructor
      · intro h
        exact ⟨none, .none, topmost_iff.mpr h.symm⟩
      · rintro ⟨given, hgiven, htop⟩
        cases hgiven
        exact (topmost_iff.mp htop).symm
  | some cidr =>
      rw [resolveSubnet_of_some hsubnet, map_error_eq_ok_iff]
      constructor
      · intro hparse
        exact ⟨some subnet, .text hparse, .override subnet file.subnet⟩
      · rintro ⟨given, hgiven, htop⟩
        cases hgiven with
        | text hparse =>
            cases htop
            exact hparse

theorem resolveSubnet_eq_error_iff : resolveSubnet overrides file = .error fault ↔
    ∃ cidr cause, overrides.subnet = some cidr ∧ Subnet.parse cidr = .error cause ∧
      fault = .subnet cause := by
  cases hsubnet : overrides.subnet with
  | none =>
      rw [resolveSubnet_of_none hsubnet]
      refine ⟨fun h => (nomatch h), ?_⟩
      rintro ⟨cidr, cause, heq, -⟩
      cases heq
  | some cidr =>
      rw [resolveSubnet_of_some hsubnet, map_error_eq_error_iff]
      constructor
      · rintro ⟨cause, hparse, hfault⟩
        exact ⟨cidr, cause, rfl, hparse, hfault.symm⟩
      · rintro ⟨cidr', cause, heq, hparse, hfault⟩
        obtain rfl := Option.some.inj heq
        exact ⟨cause, hparse, hfault.symm⟩

/-- The settings that the layers give with a subnet, before they are checked. -/
def candidate (overrides : Overrides) (file : FileSettings) (subnet : Subnet) : Settings where
  net :=
    { tap := (overrides.tap <|> file.tap).getD ({ subnet } : NatConfig).tap
      uplink := (overrides.uplink <|> file.uplink).getD ({ subnet } : NatConfig).uplink
      subnet }
  iptables :=
    (overrides.iptables <|> file.iptables).getD ({ net := { subnet } } : Settings).iptables

theorem selected_iff : Selected overrides file settings ↔
    ∃ subnet, resolveSubnet overrides file = .ok subnet ∧
      settings = candidate overrides file subnet := by
  constructor
  · rintro ⟨htap, huplink, hsubnet, hiptables⟩
    refine ⟨settings.net.subnet, resolveSubnet_eq_ok_iff.mpr hsubnet, ?_⟩
    rw [topmost_iff] at htap huplink hiptables
    cases settings with
    | mk net iptables =>
        cases net
        simp_all [candidate]
  · rintro ⟨subnet, hsubnet, rfl⟩
    exact ⟨topmost_iff.mpr rfl, topmost_iff.mpr rfl, resolveSubnet_eq_ok_iff.mp hsubnet,
      topmost_iff.mpr rfl⟩

/-- The subnet is read first, then what is selected is checked. -/
theorem resolve_eq (overrides : Overrides) (file : FileSettings) :
    resolve overrides file = (do
      let subnet ← resolveSubnet overrides file
      (candidate overrides file subnet).net.check.mapError .interfaces
      return candidate overrides file subnet) := rfl

/-- Settings are resolved to the selected ones, if these are proper. -/
theorem resolve_eq_ok_iff : resolve overrides file = .ok settings ↔
    Selected overrides file settings ∧ settings.net.check = .ok () := by
  rw [resolve_eq, selected_iff, bind_eq_ok_iff]
  simp only [bind_eq_ok_iff, map_error_eq_ok_iff]
  constructor
  · rintro ⟨subnet, hsubnet, _, hcheck, hsettings⟩
    obtain rfl := Except.ok.inj hsettings
    exact ⟨⟨subnet, hsubnet, rfl⟩, hcheck⟩
  · rintro ⟨⟨subnet, hsubnet, rfl⟩, hcheck⟩
    exact ⟨subnet, hsubnet, (), hcheck, rfl⟩

/-- A fault is one of the subnet named on top, or one of the selected names. -/
theorem resolve_eq_error_iff : resolve overrides file = .error fault ↔
    (∃ cidr cause, overrides.subnet = some cidr ∧ Subnet.parse cidr = .error cause ∧
      fault = .subnet cause) ∨
    ∃ settings cause, Selected overrides file settings ∧ settings.net.check = .error cause ∧
      fault = .interfaces cause := by
  rw [resolve_eq, bind_eq_error_iff, resolveSubnet_eq_error_iff]
  simp only [bind_eq_error_iff, map_error_eq_error_iff, selected_iff]
  refine or_congr_right ?_
  constructor
  · rintro ⟨subnet, hsubnet, ⟨cause, hcheck, hfault⟩ | ⟨_, _, hnone⟩⟩
    · exact ⟨_, cause, ⟨subnet, hsubnet, rfl⟩, hcheck, hfault.symm⟩
    · cases hnone
  · rintro ⟨settings, cause, ⟨subnet, hsubnet, rfl⟩, hcheck, hfault⟩
    exact ⟨subnet, hsubnet, Or.inl ⟨cause, hcheck, hfault.symm⟩⟩

/-- A file matters only in what the overrides leave open. -/
theorem resolve_congr (h : ∀ field, overrides.Leaves field → file.Agrees file' field) :
    resolve overrides file = resolve overrides file' := by
  have htap : overrides.tap = none → file.tap = file'.tap := h .tap
  have huplink : overrides.uplink = none → file.uplink = file'.uplink := h .uplink
  have hsubnet : overrides.subnet = none → file.subnet = file'.subnet := h .subnet
  have hiptables : overrides.iptables = none → file.iptables = file'.iptables := h .iptables
  have hread : resolveSubnet overrides file = resolveSubnet overrides file' := by
    cases hoverride : overrides.subnet with
    | none =>
        rw [resolveSubnet_of_none hoverride, resolveSubnet_of_none hoverride, hsubnet hoverride]
    | some cidr => rw [resolveSubnet_of_some hoverride, resolveSubnet_of_some hoverride]
  -- an override hides the file's value, whatever that is
  have hlayer : ∀ {override first second : Option String}, (override = none → first = second) →
      (override <|> first) = (override <|> second) := by
    intro override first second heq
    cases override with
    | none => exact heq rfl
    | some value => rfl
  have hcandidate : candidate overrides file = candidate overrides file' := by
    funext subnet
    unfold candidate
    rw [hlayer htap, hlayer huplink, hlayer hiptables]
  rw [resolve_eq, resolve_eq, hread, hcandidate]

/-- The subnet of a file that was read has no host bits. -/
theorem masked_of_loaded (h : file.Loaded) : ∀ subnet ∈ file.subnet, subnet.Masked := by
  rcases h with rfl | ⟨path, content, hcontent⟩
  · intro subnet hsubnet
    cases hsubnet
  · exact FileSettings.masked_of_accepted hcontent

/-- The subnet of resolved settings has no host bits, whichever layer it comes from. -/
theorem masked_of_selected (hfile : file.Loaded) (h : Selected overrides file settings) :
    settings.net.subnet.Masked := by
  obtain ⟨given, hgiven, htop⟩ := h.subnet
  generalize overrides.subnet = text at hgiven
  generalize settings.net.subnet = subnet at htop
  cases hgiven with
  | none =>
      -- the built-in subnet is masked, and a file's subnet was masked as it was read
      cases hsubnet : file.subnet with
      | none =>
          rw [hsubnet] at htop
          cases htop
          decide
      | some value =>
          rw [hsubnet] at htop
          cases htop
          exact masked_of_loaded hfile _ hsubnet
  | text hparse =>
      cases htop
      exact Subnet.masked_of_parse hparse

/-- Proper settings that are spelled out on top are resolved to themselves. -/
theorem resolve_overrides (file : FileSettings) (hcheck : settings.net.check = .ok ())
    (hmasked : settings.net.subnet.Masked) : resolve settings.overrides file = .ok settings := by
  rw [resolve_eq_ok_iff]
  exact ⟨⟨.override _ _, .override _ _, ⟨_, .text hmasked.parse_text, .override _ _⟩,
    .override _ _⟩, hcheck⟩

end Settings

/-- With proper interfaces, what fails is a step. -/
theorem Procedure.ends_proper {σ : Type} {host : Host σ} {s : σ} (procedure : Procedure)
    {config : NatConfig} (hcheck : config.check = .ok ()) (privilege : Privilege) :
    (procedure.setup config privilege).run.Ends host s fun v _ _ =>
      ∀ error, v = .error error → ∃ step cause, error = .stepFailed step cause := by
  cases privilege with
  | elevated =>
      refine (procedure.ends_in_order hcheck).mono ?_
      rintro v _ t hv error rfl
      obtain ⟨step, done, begun, last, cause, hstopped⟩ := hv
      exact ⟨step, cause, hstopped.error⟩
  | unprivileged =>
      refine (procedure.ends_denied hcheck).mono ?_
      rintro v _ t ⟨⟨first, _, -, rfl⟩, -⟩ error herror
      exact ⟨first, _, (Except.error.inj herror).symm⟩

theorem SetupError.kind_of_step (step : Step) (cause : HostError) :
    (stepFailed step cause).kind ≠ .config := by
  cases cause <;> cases step <;> exact fun h => nomatch h

/-- What the layers of settings come to, for any overrides and any file that was read. -/
theorem settings_are_layered (overrides : Overrides) (file : FileSettings)
    (hfile : file.Loaded) :
    -- each setting is that of the topmost layer
    (∀ settings, Settings.resolve overrides file = .ok settings ↔
      Settings.Selected overrides file settings ∧ settings.net.check = .ok ()) ∧
    -- the faults are those of the subnet on top and of the selected names
    (∀ fault, Settings.resolve overrides file = .error fault ↔
      (∃ cidr cause, overrides.subnet = some cidr ∧ Subnet.parse cidr = .error cause ∧
        fault = .subnet cause) ∨
      ∃ settings cause, Settings.Selected overrides file settings ∧
        settings.net.check = .error cause ∧ fault = .interfaces cause) ∧
    -- what is shadowed does not matter
    (∀ file', (∀ field, overrides.Leaves field → file.Agrees file' field) →
      Settings.resolve overrides file = Settings.resolve overrides file') ∧
    ∀ settings, Settings.resolve overrides file = .ok settings →
      settings.net.check = .ok () ∧ settings.net.subnet.Masked ∧
      -- no procedure finds fault with resolved settings
      (∀ {σ : Type} (host : Host σ) (s : σ) (procedure : Procedure) (privilege : Privilege) error,
        ((procedure.setup settings.net privilege).run.run host s).value = .error error →
          error.kind ≠ .config) ∧
      -- spelled out on top of any file, they are resolved to themselves
      ∀ file', Settings.resolve settings.overrides file' = .ok settings := by
  refine ⟨fun _ => Settings.resolve_eq_ok_iff, fun _ => Settings.resolve_eq_error_iff,
    fun _ => Settings.resolve_congr, ?_⟩
  intro settings hresolve
  obtain ⟨hselected, hcheck⟩ := Settings.resolve_eq_ok_iff.mp hresolve
  have hmasked := Settings.masked_of_selected hfile hselected
  refine ⟨hcheck, hmasked, ?_, fun file' => Settings.resolve_overrides file' hcheck hmasked⟩
  intro σ host s procedure privilege error herror
  have hends : (procedure.setup settings.net privilege).run.Ends host s fun v _ _ =>
      ∀ error, v = .error error → ∃ step cause, error = .stepFailed step cause :=
    procedure.ends_proper hcheck privilege
  obtain ⟨step, cause, rfl⟩ := hends error herror
  exact SetupError.kind_of_step step cause

/-- A name of the file that no interface can have is shadowed, the uplink comes from the file and
the firewall command from neither; the subnet is named with host bits. -/
theorem settings_are_layered_over_bad_name :
    let overrides : Overrides := { tap := some "tap1", subnet := some " 10.1.2.3/8" }
    let file : FileSettings := { tap := some "no name", uplink := some "eth9" }
    let file' : FileSettings := { uplink := some "eth9", subnet := some ⟨0, 0⟩ }
    let settings : Settings :=
      { net := { tap := "tap1", uplink := "eth9", subnet := ⟨.ofOctets 10 0 0 0, 8⟩ } }
    file.Loaded ∧ Settings.resolve overrides file = .ok settings ∧
      Settings.Selected overrides file settings ∧ settings.net.subnet.Masked ∧
      Settings.resolve overrides file' = .ok settings ∧
      Settings.resolve settings.overrides {} = .ok settings ∧
      Settings.resolve { overrides with tap := some "eth9" } file =
        .error (.interfaces (.same "eth9")) ∧
      (((Procedure.apply {}).setup settings.net .elevated).run.run Rehearsal.host
        { allowance := some 0 }).value = .error (.stepFailed .enableForwarding .permissionDenied) ∧
      (SetupError.stepFailed .enableForwarding .permissionDenied).kind ≠ .config := by
  intro overrides file file' settings
  have hfile : file.Loaded := by
    refine Or.inr ⟨"config.json", .ok (Text.Utf8.ofAscii
      "\x7b\"tap_interface\":\"no name\",\"uplink_interface\":\"eth9\"\x7d"), ?_⟩
    decide +kernel
  have hresolve : Settings.resolve overrides file = .ok settings := by decide +kernel
  obtain ⟨hok, -, hshadowed, hlaws⟩ := settings_are_layered overrides file hfile
  have hagrees : ∀ field, overrides.Leaves field → file.Agrees file' field := by
    intro field hleaves
    cases field <;> first | rfl | cases hleaves
  obtain ⟨-, hmasked, hstep, hspelled⟩ := hlaws settings hresolve
  have hdenied : (((Procedure.apply {}).setup settings.net .elevated).run.run Rehearsal.host
      { allowance := some 0 }).value =
        .error (.stepFailed .enableForwarding .permissionDenied) := by
    decide +kernel
  obtain ⟨-, herror, -⟩ := settings_are_layered { overrides with tap := some "eth9" } file hfile
  refine ⟨hfile, hresolve, ((hok settings).mp hresolve).1, hmasked, ?_, hspelled {}, ?_,
    hdenied, hstep _ _ _ _ _ hdenied⟩
  · rw [← hshadowed file' hagrees, hresolve]
  · refine (herror _).mpr (Or.inr ⟨{ net := { settings.net with tap := "eth9" } }, .same "eth9",
      ?_, by decide +kernel, rfl⟩)
    have hparse : Subnet.parse " 10.1.2.3/8" = .ok settings.net.subnet := by decide +kernel
    exact ⟨.override _ _, .file _, ⟨_, .text hparse, .override _ _⟩, .builtIn⟩

end GuestNat
