import Mathlib.Data.List.Basic

/-!
# Label values and DNS subdomain names

Two checks of `k8s.io/apimachinery/pkg/util/validation`: `IsValidLabelValue`, which every value of
a label and of a label selector must pass, and `IsDNS1123Subdomain`, which the API server applies to
the name of a `Node`. The first is written after its regular expression; the second is the
automaton of its regular expression `[a-z0-9]([-a-z0-9]*[a-z0-9])?(\.[a-z0-9]([-a-z0-9]*[a-z0-9])?)*`,
one state per position in a label. `DnsState.accepts_spec` is what a subdomain name gives a label
value built from it: its characters are label-value characters and its last one is alphanumeric.
-/

namespace CsiProvisioner

/-- A character of `[-A-Za-z0-9_.]`, allowed inside a label value. -/
def isLabelValueChar (c : Char) : Bool := c.isAlphanum || c == '-' || c == '_' || c == '.'

/-- `(([A-Za-z0-9][-A-Za-z0-9_.]*)?[A-Za-z0-9])?`: empty, or alphanumeric at both ends with
label-value characters in between. -/
def labelValueFmt (l : List Char) : Bool :=
  l.isEmpty || (l.head?.any Char.isAlphanum && l.getLast?.any Char.isAlphanum &&
    l.all isLabelValueChar)

/-- `validation.IsValidLabelValue`: at most 63 characters, matching `labelValueFmt`. -/
def isValidLabelValue (s : String) : Bool := s.length ≤ 63 && labelValueFmt s.data

/-- A character of `[a-z0-9]`. -/
def isLowerAlnum (c : Char) : Bool := c.isLower || c.isDigit

theorem isAlphanum_of_isLowerAlnum {c : Char} (h : isLowerAlnum c) : c.isAlphanum := by
  simp only [isLowerAlnum, Char.isAlphanum, Char.isAlpha, Bool.or_eq_true] at h ⊢
  tauto

/-- Where the automaton of `dns1123SubdomainFmt` stands. -/
inductive DnsState
  /-- At the start of a label: a lower-case letter or a digit must follow. -/
  | labelStart
  /-- After a lower-case letter or a digit: the name may end here. -/
  | alnum
  /-- After a `-` inside a label. -/
  | dash
  deriving DecidableEq, Repr

namespace DnsState

/-- One character of input. -/
def step (s : DnsState) (c : Char) : Option DnsState :=
  if isLowerAlnum c then some .alnum
  else if c = '-' ∧ s ≠ .labelStart then some .dash
  else if c = '.' ∧ s = .alnum then some .labelStart
  else none

/-- The rest of the input is accepted from state `s`. -/
def accepts : DnsState → List Char → Bool
  | s, [] => s == .alnum
  | s, c :: cs => match s.step c with
    | some s' => s'.accepts cs
    | none => false

/-- The automaton stands after a letter or digit only when it has just read one. -/
theorem isLowerAlnum_of_step_eq_alnum {s : DnsState} {c : Char} (h : s.step c = some .alnum) :
    isLowerAlnum c := by
  unfold step at h
  split_ifs at h with h₁ <;> simp_all

/-- Every character the automaton steps over is a label-value character. -/
theorem isLabelValueChar_of_step {s s' : DnsState} {c : Char} (h : s.step c = some s') :
    isLabelValueChar c := by
  unfold step at h
  split_ifs at h with h₁ h₂ h₃
  · simp [isLabelValueChar, isAlphanum_of_isLowerAlnum h₁]
  · simp [isLabelValueChar, h₂.1]
  · simp [isLabelValueChar, h₃.1]

/-- An accepted input is made of label-value characters, and ends alphanumeric unless it is
empty and the automaton already stood after a letter or digit. -/
theorem accepts_spec : ∀ {s : DnsState} {l : List Char}, s.accepts l →
    l.all isLabelValueChar ∧ (l.getLast?.any Char.isAlphanum || (l.isEmpty && s == .alnum))
  | s, [], h => by simpa [accepts] using h
  | s, c :: cs, h => by
    unfold accepts at h
    split at h
    · next s' hs =>
      obtain ⟨hall, hlast⟩ := accepts_spec h
      refine ⟨by simp [isLabelValueChar_of_step hs, hall], ?_⟩
      cases cs with
      | nil =>
        have : s' = .alnum := by simpa [accepts] using h
        subst this
        simp [isAlphanum_of_isLowerAlnum (isLowerAlnum_of_step_eq_alnum hs)]
      | cons c' cs => simpa [List.getLast?_cons_cons] using hlast
    · cases h

end DnsState

/-- `validation.IsDNS1123Subdomain`: at most 253 characters, accepted by the automaton. -/
def isDNS1123Subdomain (s : String) : Bool := s.length ≤ 253 && DnsState.labelStart.accepts s.data

/-- A DNS subdomain name is not empty, is made of label-value characters, and ends alphanumeric. -/
theorem isDNS1123Subdomain_spec {s : String} (h : isDNS1123Subdomain s) :
    s.data.all isLabelValueChar ∧ s.data.getLast?.any Char.isAlphanum := by
  simp only [isDNS1123Subdomain, Bool.and_eq_true] at h
  obtain ⟨hall, hlast⟩ := DnsState.accepts_spec h.2
  exact ⟨hall, by simpa using hlast⟩

end CsiProvisioner
