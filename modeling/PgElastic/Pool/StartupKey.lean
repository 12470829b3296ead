import PgElastic.Library.OrderedMap
import PgElastic.Library.Transition

/-!
# Startup fingerprints

The part of the pool key that comes from a client's startup packet: `StartupFingerprint::build`
with the policy it obeys and the reader of the `options` parameter.  Texts are lists of
characters.  The other axes of the key are compared as they are and left out.
-/

namespace PgElastic.Pool

open Library Option List

abbrev Text := List Char

/-- The `White_Space` property of Unicode, which `char::is_whitespace` reads. -/
def isWhitespace (c : Char) : Bool :=
  (9 ≤ c.toNat && c.toNat ≤ 13) || c.toNat == 0x20 || c.toNat == 0x85 || c.toNat == 0xA0 ||
    c.toNat == 0x1680 || (0x2000 ≤ c.toNat && c.toNat ≤ 0x200A) || c.toNat == 0x2028 ||
    c.toNat == 0x2029 || c.toNat == 0x202F || c.toNat == 0x205F || c.toNat == 0x3000

namespace Text

/-- Changes the letters `A` to `Z` only. -/
def toAsciiLowercase (text : Text) : Text := text.map Char.toLower

def trim (text : Text) : Text :=
  ((text.dropWhile isWhitespace).reverse.dropWhile isWhitespace).reverse

/-- What stands before and after the first occurrence of a character. -/
def splitOnce (separator : Char) : Text → Option (Text × Text)
  | [] => none
  | c :: rest =>
    if c = separator then some ([], rest)
    else (splitOnce separator rest).map fun parts => (c :: parts.1, parts.2)

/-- `strip_prefix`: what follows the given beginning. -/
def stripBeginning : Text → Text → Option Text
  | [], text => some text
  | _ :: _, [] => none
  | p :: ps, c :: rest => if p = c then stripBeginning ps rest else none

end Text

/-- What to do with a startup parameter that is not one of the reserved names. -/
inductive StartupParamPolicy
  | reject
  | ignore
  | poolKey
  deriving DecidableEq, Repr

structure FingerprintPolicy where
  default : StartupParamPolicy
  overrides : OrderedMap Text StartupParamPolicy

namespace FingerprintPolicy

def new (default : StartupParamPolicy) : FingerprintPolicy := ⟨default, OrderedMap.empty⟩

def withOverride (policy : FingerprintPolicy) (name : Text) (param : StartupParamPolicy) :
    FingerprintPolicy :=
  { policy with overrides := policy.overrides.insert (Text.toAsciiLowercase name) param }

/-- `Default`: everything is part of the key but a setting every driver makes without intent. -/
def standard : FingerprintPolicy :=
  (new .poolKey).withOverride "extra_float_digits".toList .ignore

def policyFor (policy : FingerprintPolicy) (name : Text) : StartupParamPolicy :=
  (policy.overrides.get? name).getD policy.default

end FingerprintPolicy

structure RejectedStartupParam where
  name : Text
  deriving DecidableEq, Repr

/-- Startup parameters in a canonical form that does not depend on their order. -/
structure StartupFingerprint where
  params : OrderedMap Text Text
  deriving DecidableEq

/-- The names that are fields of the key in their own right. -/
def reserved : List Text := ["user".toList, "database".toList, "replication".toList]

def optionsName : Text := "options".toList

/-- Splits at whitespace.  A backslash takes the next character as it is, and is dropped at the
end of the text. -/
def splitFrom (current : Text) (started : Bool) : Text → List Text
  | [] => if started then [current] else []
  | c :: rest =>
    if c = '\\' then
      match rest with
      | [] => if started then [current] else []
      | escaped :: rest => splitFrom (current ++ [escaped]) true rest
    else if isWhitespace c then
      if started then current :: splitFrom [] false rest else splitFrom current started rest
    else splitFrom (current ++ [c]) true rest

def splitOptions (raw : Text) : List Text := splitFrom [] false raw

/-- An assignment joins the settings, and anything else the residual. -/
def noteAssignment (assignment : Text) (found : List (Text × Text) × List Text) :
    List (Text × Text) × List Text :=
  match Text.splitOnce '=' assignment with
  | some (name, value) => ((Text.toAsciiLowercase (Text.trim name), value) :: found.1, found.2)
  | none => (found.1, assignment :: found.2)

/-- The settings a list of tokens carries, and the tokens that carry none. -/
def readTokens : List Text → List (Text × Text) × List Text
  | [] => ([], [])
  | token :: rest =>
    if token = "-c".toList then
      match rest with
      | [] => ([], [])
      | assignment :: rest => noteAssignment assignment (readTokens rest)
    else
      match Text.stripBeginning "-c".toList token with
      | some assignment => noteAssignment assignment (readTokens rest)
      | none =>
        match Text.stripBeginning "--".toList token with
        | some assignment => noteAssignment assignment (readTokens rest)
        | none => ((readTokens rest).1, token :: (readTokens rest).2)

/-- The settings of an `options` value; what cannot be attributed to one is kept as text. -/
def expandOptions (raw : Text) : List (Text × Text) :=
  let found := readTokens (splitOptions raw)
  if found.2.isEmpty then found.1
  else found.1 ++ [(optionsName, [' '].intercalate found.2)]

namespace StartupFingerprint

/-- One setting on its way into the fingerprint. -/
def apply (policy : FingerprintPolicy) (canonical : OrderedMap Text Text)
    (setting : Text × Text) : Except RejectedStartupParam (OrderedMap Text Text) :=
  match policy.policyFor setting.1 with
  | .reject => .error ⟨setting.1⟩
  | .ignore => .ok canonical
  | .poolKey => .ok (canonical.insert setting.1 setting.2)

/-- One parameter of the packet. -/
def applyParam (policy : FingerprintPolicy) (canonical : OrderedMap Text Text)
    (param : Text × Text) : Except RejectedStartupParam (OrderedMap Text Text) :=
  let name := Text.toAsciiLowercase param.1
  if name ∈ reserved then .ok canonical
  else if name = optionsName then (expandOptions param.2).foldlM (apply policy) canonical
  else apply policy canonical (name, param.2)

def build (params : List (Text × Text)) (policy : FingerprintPolicy) :
    Except RejectedStartupParam StartupFingerprint :=
  (params.foldlM (applyParam policy) OrderedMap.empty).map StartupFingerprint.mk

end StartupFingerprint

/-! ### What a fingerprint records -/

/-- The value a name has after a list of assignments. -/
def lastValue (name : Text) : List (Text × Text) → Option Text
  | [] => none
  | setting :: rest =>
    (lastValue name rest).or (if setting.1 = name then some setting.2 else none)

variable {name : Text}

/-- What a packet assigns, in the order the fingerprint sees it. -/
def settingsOf (params : List (Text × Text)) : List (Text × Text) :=
  params.flatMap fun param =>
    let name := Text.toAsciiLowercase param.1
    if name ∈ reserved then []
    else if name = optionsName then expandOptions param.2
    else [(name, param.2)]

namespace StartupFingerprint

lemma foldlM_applyParam (policy : FingerprintPolicy) (params : List (Text × Text))
    (canonical : OrderedMap Text Text) :
    params.foldlM (applyParam policy) canonical =
      (settingsOf params).foldlM (apply policy) canonical := by
  induction params generalizing canonical with
  | nil => rfl
  | cons param rest ih =>
    have hhead : applyParam policy canonical param =
        (settingsOf [param]).foldlM (apply policy) canonical := by
      simp only [applyParam, settingsOf, flatMap_cons, flatMap_nil, append_nil]
      split
      · rfl
      · split
        · rfl
        · simp
    have hsplit : settingsOf (param :: rest) = settingsOf [param] ++ settingsOf rest := by
      simp [settingsOf]
    rw [foldlM_cons, hsplit, foldlM_append, hhead]
    congr 1
    funext middle
    exact ih middle

variable {policy : FingerprintPolicy}

/-- A map built from a list of settings holds the last one of each name that is not ignored. -/
lemma get?_foldlM_apply (hname : policy.policyFor name ≠ .ignore)
    {settings : List (Text × Text)} {canonical after : OrderedMap Text Text} :
    settings.foldlM (apply policy) canonical = .ok after →
    after.get? name = (lastValue name settings).or (canonical.get? name) := by
  induction settings generalizing canonical after with
  | nil =>
    intro h
    cases h
    rfl
  | cons setting rest ih =>
    intro h
    rw [foldlM_cons] at h
    obtain ⟨middle, hmiddle, h⟩ := ok_of_bind h
    have hstep : middle.get? name =
        (if setting.1 = name then some setting.2 else none).or (canonical.get? name) := by
      unfold apply at hmiddle
      split at hmiddle
      · cases hmiddle
      · rename_i hignored
        cases hmiddle
        have hother : setting.1 ≠ name := fun heq => hname (heq ▸ hignored)
        rw [if_neg hother, none_or]
      cases hmiddle
      rw [OrderedMap.get?_insert]
      by_cases heq : setting.1 = name
      · rw [if_pos heq, if_pos heq.symm, some_or]
      · rw [if_neg heq, if_neg (Ne.symm heq), none_or]
    rw [ih h, lastValue, Option.or_assoc, hstep]

/-- A fingerprint holds, for every name that is not ignored, what the packet assigned last. -/
theorem get?_build {params : List (Text × Text)} {fingerprint : StartupFingerprint}
    (h : build params policy = .ok fingerprint) (hname : policy.policyFor name ≠ .ignore) :
    fingerprint.params.get? name = lastValue name (settingsOf params) := by
  unfold build at h
  rw [foldlM_applyParam] at h
  obtain ⟨canonical, hbuilt, ⟨⟩⟩ := ok_of_bind h
  rw [get?_foldlM_apply hname hbuilt, OrderedMap.get?_empty, or_none]

end StartupFingerprint
end PgElastic.Pool
