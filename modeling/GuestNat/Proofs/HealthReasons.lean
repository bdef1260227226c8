import GuestNat.Proofs.HealthClasses

/-!
# Reasons and findings

What is said of a partial setup, against what was found. A reason is about the first thing that the
setup lacks, and says of forwarding and of a rule whether it is not there or could not be looked at.
Of an interface it always says that there is none, even where the look had no answer, and then it
contradicts the line above it.

* `Finding`, `Status.findings`: what was looked at, one thing after the other;
* `Question.absence`, `Question.doubt`: the two things that a reason can say of one of them;
* `Finding.Fits`: a reason that goes with what was found;
* `Status.reason_fits_iff`: the reason fits, unless it is about an interface that could not be
  looked up;
* `Status.calls_unknown_absent_iff`: only then is something called absent that is shown as unknown;
* `reasons_tell`: all of it for every status.
-/

namespace GuestNat

/-! ## Findings -/

/-- One thing that was looked at, and what the look came to. -/
structure Finding where
  subject : Question
  probe : Probe
deriving DecidableEq

namespace Question

/-- What the line about a thing calls it. -/
def label : Question → String
  | forwarding => "ip_forward"
  | interface name => "interface " ++ name
  | rule r => "rule " ++ r.text

/-- The reason that says of a thing that it is not there. -/
def absence : Question → String
  | forwarding => "IPv4 forwarding is disabled"
  | interface name => "interface " ++ name ++ " does not exist"
  | rule r => "rule " ++ r.text ++ " is missing"

/-- The reason that says of a thing that nothing is known of it. -/
def doubt : Question → String
  | forwarding => "could not read the IPv4 forwarding state"
  | interface name => "interface " ++ name ++ " could not be checked"
  | rule r => "rule " ++ r.text ++ " could not be checked"

variable {subject other : Question}

/-- Only things of the same label are called absent by the same reason: the ends of the reasons tell
the kinds of things apart. -/
theorem label_of_absence (h : subject.absence = other.absence) : subject.label = other.label := by
  have hends := congrArg (fun reason => reason.toList.reverse) h
  cases subject <;> cases other <;> simp [absence] at hends
  · rfl
  · exact congrArg ("interface " ++ ·) (String.toList_inj.mp hends)
  · exact congrArg ("rule " ++ ·) (String.toList_inj.mp hends)

/-- No reason says both. -/
theorem doubt_ne_absence : subject.doubt ≠ other.absence := by
  intro h
  have hends := congrArg (fun reason => reason.toList.reverse) h
  cases subject <;> cases other <;> simp [absence, doubt] at hends

end Question

namespace Finding

/-- The line about a finding. -/
def line (finding : Finding) : String :=
  finding.subject.label ++ ": " ++
    match finding.subject with
    | .forwarding => Status.probeText finding.probe "on" "off"
    | .interface _ | .rule _ => Status.probeText finding.probe "present" "missing"

/-- A reason fits a finding if it says that there is no such thing where none was found, and that
nothing is known where the look had no answer. What was found is no reason. -/
def Fits (finding : Finding) (reason : String) : Prop :=
  match finding.probe with
  | some true => False
  | some false => reason = finding.subject.absence
  | none => reason = finding.subject.doubt

/-- What is said of a setup that lacks this first. -/
def reason : Finding → Shortcoming
  | ⟨.forwarding, none⟩ => .forwardingUnknown
  | ⟨.forwarding, some _⟩ => .forwardingOff
  | ⟨.rule r, none⟩ => .ruleUnknown r
  | ⟨.rule r, some _⟩ => .ruleMissing r
  | ⟨.interface name, _⟩ => .interfaceMissing name

variable {finding : Finding}

/-- A line says `unknown` of the things that could not be looked at. -/
theorem line_eq_unknown_iff :
    finding.line = finding.subject.label ++ ": unknown" ↔ finding.probe = none := by
  have hcancel (answer : String) :
      finding.subject.label ++ ": " ++ answer = finding.subject.label ++ ": unknown" ↔
        answer = "unknown" := by
    rw [String.append_assoc, String.append_right_inj, show ": unknown" = ": " ++ "unknown" from rfl,
      String.append_right_inj]
  rw [line, hcancel]
  obtain ⟨subject, probe⟩ := finding
  cases probe with
  | none => cases subject <;> simp [Status.probeText]
  | some there => cases there <;> cases subject <;> simp [Status.probeText]

/-- What is said fits what was found, unless it is said of an interface that could not be looked
up. -/
theorem fits_reason_or (h : finding.probe ≠ some true) :
    finding.Fits finding.reason.text ∨ ∃ name, finding = ⟨.interface name, none⟩ := by
  obtain ⟨subject, probe⟩ := finding
  cases probe with
  | some there =>
      cases there with
      | true => exact absurd rfl h
      | false => cases subject <;> exact Or.inl rfl
  | none =>
      cases subject with
      | forwarding => exact Or.inl rfl
      | interface name => exact Or.inr ⟨name, rfl⟩
      | rule r => exact Or.inl rfl

end Finding

namespace Status

variable {status : Status} {shortcoming : Shortcoming} {finding : Finding} {name : String}

/-- What was found about an interface. -/
def interfaceFinding (found : String × Probe) : Finding := ⟨.interface found.1, found.2⟩

/-- What was found about a rule. -/
def ruleFinding (found : RuleStatus) : Finding := ⟨.rule found.rule, found.present⟩

/-- What was found, in the order in which it is shown. -/
def findings (status : Status) : List Finding :=
  ⟨.forwarding, status.forwarding⟩ ::
    (status.interfaces.map interfaceFinding ++ status.rules.map ruleFinding)

/-- The first thing that a setup lacks, where the rules come before the interfaces. -/
def firstLack? (status : Status) : Option Finding :=
  List.find? (·.probe ≠ some true) (⟨.forwarding, status.forwarding⟩ ::
    (status.rules.map ruleFinding ++ status.interfaces.map interfaceFinding))

/-- The reason that is given, if any, fits the first thing that the setup lacks. -/
def ReasonFits (status : Status) : Prop :=
  ∀ shortcoming, status.health = .partly shortcoming →
    ∃ finding, status.firstLack? = some finding ∧ finding.Fits shortcoming.text

/-- The last line calls something absent of which another line says that it is unknown. -/
def CallsUnknownAbsent (status : Status) : Prop :=
  ∃ finding ∈ status.findings, finding.line = finding.subject.label ++ ": unknown" ∧
    status.lines.getLast? = some ("status: partially configured: " ++ finding.subject.absence)

/-- A line for each finding, and one for the whole. -/
theorem lines_eq (status : Status) :
    status.lines = status.findings.map Finding.line ++ ["status: " ++ status.health.text] := by
  unfold lines findings
  simp only [List.map_cons, List.map_append, List.map_map, List.cons_append, List.nil_append]
  rfl

theorem mem_findings (h : status.firstLack? = some finding) : finding ∈ status.findings := by
  have hmem := List.mem_of_find?_eq_some h
  unfold findings
  simp only [List.mem_cons, List.mem_append] at hmem ⊢
  exact hmem.imp_right Or.symm

theorem probe_of_firstLack (h : status.firstLack? = some finding) : finding.probe ≠ some true := by
  simpa using List.find?_some h

/-- What is said to be lacking is said of the first finding that is not there. -/
theorem FirstLack.found (h : status.FirstLack shortcoming) :
    ∃ finding, status.firstLack? = some finding ∧ shortcoming = finding.reason := by
  unfold firstLack?
  cases h with
  | forwardingUnknown hforwarding => exact ⟨⟨.forwarding, none⟩, by simp [hforwarding], rfl⟩
  | forwardingOff hforwarding => exact ⟨⟨.forwarding, some false⟩, by simp [hforwarding], rfl⟩
  | @ruleUnknown before after step rule hforwarding hrules hbefore =>
      refine ⟨⟨.rule rule, none⟩, List.find?_eq_some_iff_append.mpr ⟨rfl,
        ⟨.forwarding, some true⟩ :: before.map ruleFinding,
        after.map ruleFinding ++ status.interfaces.map interfaceFinding, ?_, ?_⟩, rfl⟩
      · simp [hforwarding, hrules, ruleFinding]
      · simpa [ruleFinding] using hbefore
  | @ruleMissing before after step rule hforwarding hrules hbefore =>
      refine ⟨⟨.rule rule, some false⟩, List.find?_eq_some_iff_append.mpr ⟨rfl,
        ⟨.forwarding, some true⟩ :: before.map ruleFinding,
        after.map ruleFinding ++ status.interfaces.map interfaceFinding, ?_, ?_⟩, rfl⟩
      · simp [hforwarding, hrules, ruleFinding]
      · simpa [ruleFinding] using hbefore
  | @interfaceMissing before after name probe hforwarding hrules hinterfaces hbefore hprobe =>
      refine ⟨⟨.interface name, probe⟩, List.find?_eq_some_iff_append.mpr
        ⟨decide_eq_true hprobe,
        ⟨.forwarding, some true⟩ :: (status.rules.map ruleFinding ++ before.map interfaceFinding),
        after.map interfaceFinding, ?_, ?_⟩, rfl⟩
      · simp [hforwarding, hinterfaces, interfaceFinding]
      · simp only [List.forall_mem_cons, List.forall_mem_append, List.forall_mem_map]
        exact ⟨rfl, fun found hfound => by simp [ruleFinding, hrules found hfound],
          fun found hfound => by simp [interfaceFinding, hbefore found hfound]⟩

/-- A partial setup is said to lack what it lacks first. -/
theorem reason_of_partly (h : status.health = .partly shortcoming) :
    ∃ finding, status.firstLack? = some finding ∧ shortcoming = finding.reason :=
  (firstLack_of_partly h).found

/-- A setup that lacks an interface first is there in part. -/
theorem partly_of_interface {probe : Probe}
    (h : status.firstLack? = some ⟨.interface name, probe⟩) :
    status.health = .partly (.interfaceMissing name) := by
  have hmissing := probe_of_firstLack h
  cases hhealth : status.health with
  | configured =>
      -- then every finding is there
      obtain ⟨hforwarding, hinterfaces, hrules⟩ := health_eq_configured_iff.mp hhealth
      have hmem := mem_findings h
      unfold findings at hmem
      simp only [List.mem_cons, List.mem_append, List.mem_map] at hmem
      rcases hmem with heq | ⟨found, hfound, heq⟩ | ⟨found, hfound, heq⟩
      · cases heq
      · cases heq
        exact absurd (hinterfaces found hfound) hmissing
      · cases heq
  | unconfigured =>
      -- then it lacks forwarding first
      have hforwarding := (health_eq_unconfigured_iff.mp hhealth).forwarding
      unfold firstLack? at h
      rw [List.find?_cons_of_pos (by simpa using hforwarding)] at h
      cases h
  | partly shortcoming =>
      obtain ⟨finding, hfinding, rfl⟩ := reason_of_partly hhealth
      cases Option.some.inj (hfinding.symm.trans h)
      rfl

/-! ## Reasons -/

/-- The reason fits, unless it is about an interface that could not be looked up. -/
theorem reason_fits_iff :
    status.ReasonFits ↔ ∀ name, status.firstLack? ≠ some ⟨.interface name, none⟩ := by
  constructor
  · intro hfits name hfirst
    obtain ⟨finding, hfinding, hreason⟩ := hfits _ (partly_of_interface hfirst)
    cases Option.some.inj (hfinding.symm.trans hfirst)
    have hboth : (Question.interface name).doubt = (Question.interface name).absence :=
      hreason.symm
    exact Question.doubt_ne_absence hboth
  · intro hknown shortcoming hhealth
    obtain ⟨finding, hfinding, rfl⟩ := reason_of_partly hhealth
    refine ⟨finding, hfinding, ?_⟩
    rcases Finding.fits_reason_or (probe_of_firstLack hfinding) with hfits | ⟨name, rfl⟩
    · exact hfits
    · exact absurd hfinding (hknown name)

/-- What the last line calls absent is what the reason calls absent. -/
theorem last_line_iff {text : String} :
    status.lines.getLast? = some ("status: partially configured: " ++ text) ↔
      ∃ shortcoming, status.health = .partly shortcoming ∧ shortcoming.text = text := by
  rw [lines_eq, List.getLast?_append, List.getLast?_singleton, Option.some_or, Option.some.injEq]
  generalize status.health = health
  unfold Health.text
  cases health <;> simp [← String.toList_inj]

/-- Where nothing was looked at twice, something is called absent that is shown as unknown exactly
if the setup first lacks an interface that could not be looked up. -/
theorem calls_unknown_absent_iff
    (hdistinct : (status.findings.map fun finding => finding.subject.label).Nodup) :
    status.CallsUnknownAbsent ↔ ∃ name, status.firstLack? = some ⟨.interface name, none⟩ := by
  unfold CallsUnknownAbsent
  simp only [Finding.line_eq_unknown_iff, last_line_iff]
  constructor
  · rintro ⟨finding, hmem, hunknown, shortcoming, hhealth, htext⟩
    obtain ⟨first, hfirst, rfl⟩ := reason_of_partly hhealth
    rcases Finding.fits_reason_or (probe_of_firstLack hfirst) with hfits | ⟨name, rfl⟩
    · exfalso
      unfold Finding.Fits at hfits
      split at hfits
      · exact hfits
      · next habsent =>
          -- both are the same thing, so it was found to be absent
          have hlabel := Question.label_of_absence (hfits.symm.trans htext)
          have hsame := List.inj_on_of_nodup_map hdistinct (mem_findings hfirst) hmem hlabel
          rw [← hsame, habsent] at hunknown
          cases hunknown
      · exact Question.doubt_ne_absence (hfits.symm.trans htext)
    · exact ⟨name, hfirst⟩
  · rintro ⟨name, hfirst⟩
    exact ⟨_, mem_findings hfirst, rfl, _, partly_of_interface hfirst, rfl⟩

end Status

/-- What the reason for a partial setup tells. -/
structure TellsReason (status : Status) : Prop where
  /-- What was found is shown line by line, and the health behind it. -/
  lines : status.lines =
    status.findings.map Finding.line ++ ["status: " ++ status.health.text]
  unknown : ∀ finding ∈ status.findings,
    finding.line = finding.subject.label ++ ": unknown" ↔ finding.probe = none
  /-- The reason is about the first thing that is lacking. -/
  first : ∀ shortcoming, status.health = .partly shortcoming →
    ∃ finding ∈ status.findings, status.firstLack? = some finding ∧
      (finding.Fits shortcoming.text ∨ ∃ name, finding = ⟨.interface name, none⟩ ∧
        shortcoming.text = finding.subject.absence)
  fits_iff : status.ReasonFits ↔ ∀ name, status.firstLack? ≠ some ⟨.interface name, none⟩
  contradicts_iff : (status.findings.map fun finding => finding.subject.label).Nodup →
    (status.CallsUnknownAbsent ↔ ∃ name, status.firstLack? = some ⟨.interface name, none⟩)

/-- **What a reason tells of a partial setup**, for any number of interfaces and rules and any
answers. A reason about forwarding or a rule says that it is not there only if it was found so, and
that it could not be looked at if it could not. Of an interface that could not be looked up the
reason says that there is none, and in no other case does it contradict the lines above it. -/
theorem reasons_tell (status : Status) : TellsReason status where
  lines := status.lines_eq
  unknown := fun _ _ => Finding.line_eq_unknown_iff
  first := by
    intro shortcoming hhealth
    obtain ⟨finding, hfinding, rfl⟩ := Status.reason_of_partly hhealth
    refine ⟨finding, Status.mem_findings hfinding, hfinding, ?_⟩
    refine (Finding.fits_reason_or (Status.probe_of_firstLack hfinding)).imp_right ?_
    rintro ⟨name, rfl⟩
    exact ⟨name, rfl, rfl⟩
  fits_iff := Status.reason_fits_iff
  contradicts_iff := Status.calls_unknown_absent_iff

/-- All of a setup is there, and its uplink could not be looked up: it is said not to exist, below a
line that says that it is unknown. -/
theorem unknown_interface_called_absent :
    let status : Status :=
      { forwarding := some true
        interfaces := [("tap0", some true), ("enp1s0", none)]
        rules := [⟨.acceptToTap, .acceptTo "tap0", some true⟩,
          ⟨.acceptFromTap, .acceptFrom "tap0", some true⟩,
          ⟨.masquerade, .masquerade ⟨.ofOctets 192 0 2 0, 24⟩ "enp1s0", some true⟩] }
    status.lines = ["ip_forward: on", "interface tap0: present", "interface enp1s0: unknown",
        "rule -t filter FORWARD -o tap0 -j ACCEPT: present",
        "rule -t filter FORWARD -i tap0 -j ACCEPT: present",
        "rule -t nat POSTROUTING -s 192.0.2.0/24 -o enp1s0 -j MASQUERADE: present",
        "status: partially configured: interface enp1s0 does not exist"] ∧
      ¬status.ReasonFits ∧ status.CallsUnknownAbsent := by
  intro status
  have hfirst : status.firstLack? = some ⟨.interface "enp1s0", none⟩ := rfl
  refine ⟨by decide +kernel, ?_, ?_⟩
  · exact fun hfits => Status.reason_fits_iff.mp hfits "enp1s0" hfirst
  · exact (Status.calls_unknown_absent_iff (by decide +kernel)).mpr ⟨"enp1s0", hfirst⟩

end GuestNat
