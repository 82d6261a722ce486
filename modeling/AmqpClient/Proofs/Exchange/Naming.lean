import AmqpClient.Exchange
import AmqpClient.Proofs.Text.Casing

/-!
# Names of exchange kinds

A name is read as a kind exactly if it is the kind's wire name but for blanks around it and for
the case of ASCII letters. Every other name is refused, and quoted as it was compared. A broker
gets to know the kind by the wire name again.
-/

set_option autoImplicit false

namespace AmqpClient

/-- The names under which a link declares kinds: the protocol's own have their names in the
protocol, a custom one has the name that is given. -/
structure DeclaredKind.IsNaming (name : DeclaredKind → String) : Prop where
  direct : name .direct = "direct"
  fanout : name .fanout = "fanout"
  topic : name .topic = "topic"
  headers : name .headers = "headers"
  custom : ∀ text, name (.custom text) = text

theorem DeclaredKind.exists_isNaming : ∃ name, IsNaming name := by
  refine ⟨fun kind => kind.casesOn "direct" "fanout" "topic" "headers" id, ?_⟩
  constructor
  · rfl
  · rfl
  · rfl
  · rfl
  · intro text
    rfl

namespace ExchangeKind

/-- What is left of a text without the blanks around it and with small ASCII letters. -/
def IsNormalOf (form text : String) : Prop :=
  ∃ core, Text.IsCoreOf core text.toList ∧ List.Forall₂ Text.Lowers core form.toList

/-! ## Normal forms -/

private theorem normalize_eq_iff {text form : String} :
    normalize text = form ↔ IsNormalOf form text := by
  constructor
  · rintro rfl
    refine ⟨_, Text.isCoreOf_trimChars _, Text.map_toLower_eq_iff.mp ?_⟩
    rw [normalize, String.toList_ofList]
  · rintro ⟨core, isCore, lowered⟩
    rw [normalize, isCore.trimChars_eq, Text.map_toLower_eq_iff.mpr lowered, String.ofList_toList]

private theorem isNormalOf_normalize (text : String) : IsNormalOf (normalize text) text :=
  normalize_eq_iff.mp rfl

theorem IsNormalOf.eq {text form other : String} (isNormal : IsNormalOf form text)
    (isNormal' : IsNormalOf other text) : form = other :=
  (normalize_eq_iff.mpr isNormal).symm.trans (normalize_eq_iff.mpr isNormal')

private theorem normalize_eq_of_resembles {text other : String}
    (resembles : Text.Resembles text other) :
    normalize text = normalize other := by
  rw [normalize, normalize, resembles.trimChars_eq]

private theorem normalize_wireName (kind : ExchangeKind) :
    normalize kind.wireName = kind.wireName := by
  cases kind <;> rfl

/-! ## Wire names -/

private theorem ofWireName?_wireName (kind : ExchangeKind) :
    ofWireName? kind.wireName = some kind := by
  cases kind <;> rfl

private theorem ofWireName?_eq_some_iff {name : String} {kind : ExchangeKind} :
    ofWireName? name = some kind ↔ kind.wireName = name := by
  constructor
  · intro found
    simpa using List.find?_some found
  · rintro rfl
    exact ofWireName?_wireName kind

private theorem ofWireName?_eq_none_iff {name : String} :
    ofWireName? name = none ↔ ∀ kind : ExchangeKind, kind.wireName ≠ name := by
  simp only [Option.eq_none_iff_forall_ne_some, ne_eq, ofWireName?_eq_some_iff]

private theorem wireName_declared {name : DeclaredKind → String}
    (naming : DeclaredKind.IsNaming name)
    (kind : ExchangeKind) : name kind.declared = kind.wireName := by
  cases kind with
  | direct => exact naming.direct
  | fanout => exact naming.fanout
  | topic => exact naming.topic
  | headers => exact naming.headers
  | delayed => exact naming.custom _

/-! ## Reading -/

def unsupported (form : String) : ClientError :=
  .invalidTopology ("unsupported exchange type `" ++ form ++ "`")

theorem parse_eq_ok_iff {text : String} {kind : ExchangeKind} :
    parse text = .ok kind ↔ IsNormalOf kind.wireName text := by
  rw [← normalize_eq_iff, eq_comm (a := normalize text), ← ofWireName?_eq_some_iff, parse]
  cases ofWireName? (normalize text) with
  | none => simp
  | some other => simp

theorem parse_eq_error_iff {text : String} {error : ClientError} :
    parse text = .error error ↔
      ∃ form, IsNormalOf form text ∧ (∀ kind : ExchangeKind, kind.wireName ≠ form) ∧
        error = unsupported form := by
  constructor
  · intro refused
    refine ⟨_, isNormalOf_normalize text, ?_⟩
    rw [← ofWireName?_eq_none_iff]
    unfold parse at refused
    split at refused
    · cases refused
    · next unknown =>
      cases refused
      exact ⟨unknown, rfl⟩
  · rintro ⟨form, isNormal, unknown, rfl⟩
    rw [parse, normalize_eq_iff.mpr isNormal, ofWireName?_eq_none_iff.mpr unknown]
    rfl

private theorem parse_eq_of_resembles {text other : String}
    (resembles : Text.Resembles text other) :
    parse text = parse other := by
  rw [parse, parse, normalize_eq_of_resembles resembles]

/-- What is made of a text that is to name a kind. -/
structure ReadsNames (text : String) : Prop where
  accepts : ∀ kind, parse text = .ok kind ↔ IsNormalOf kind.wireName text
  refuses : ∀ error, parse text = .error error ↔
    ∃ form, IsNormalOf form text ∧ (∀ kind : ExchangeKind, kind.wireName ≠ form) ∧
      error = .invalidTopology ("unsupported exchange type `" ++ form ++ "`")
  ignores : ∀ other, Text.Resembles text other → parse text = parse other
  /-- A wire name is read as its own kind. -/
  returns : ∀ kind : ExchangeKind, text = kind.wireName → parse text = .ok kind
  /-- A kind is declared by its wire name again, under every naming. -/
  declares : ∀ name, DeclaredKind.IsNaming name → ∀ kind, parse text = .ok kind →
    name kind.declared = kind.wireName ∧ IsNormalOf (name kind.declared) text

/-- Names are read exactly by the wire names, whatever blanks surround them and whatever the case
of their ASCII letters is. -/
theorem readsNames (text : String) : ReadsNames text where
  accepts kind := parse_eq_ok_iff
  refuses error := parse_eq_error_iff
  ignores other resembles := parse_eq_of_resembles resembles
  returns kind named := by
    rw [named, parse_eq_ok_iff, ← normalize_eq_iff, normalize_wireName]
  declares name naming kind read := by
    rw [wireName_declared naming]
    exact ⟨rfl, parse_eq_ok_iff.mp read⟩

-- A long s is a small letter already, though it is an s for those who ignore all case.
example : parse "\tHeaderS " = .ok .headers ∧
    parse "headerſ" = .error (.invalidTopology "unsupported exchange type `headerſ`") := by
  decide

end ExchangeKind

end AmqpClient
