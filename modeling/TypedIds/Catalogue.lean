import TypedIds.Identifier.Family
import TypedIds.Text.Casing

/-!
# A catalogue of identifier types

The identifiers of a shop and its back office: a family with types of every kind, with and without
hooks, with hooks that change a value, that reject one, or both, and with components of every sort.
Three of the types are written by hand.
-/

set_option autoImplicit false

namespace TypedIds.Catalogue

open Text

/-- The types of the catalogue. -/
inductive Key where
  | orderId | customerId | invoiceId | sessionId | oddId | liveId | evenId
  | code | label | nickname | sku | email | mailbox | tagged | seen | short
  | userKey | accountKey | slot | shard | range | stock | wide | nested | contact
  | skuCode | batchId | lotId
  deriving Repr, DecidableEq, Inhabited

namespace Key

/-- All types. -/
def all : List Key :=
  [orderId, customerId, invoiceId, sessionId, oddId, liveId, evenId, code, label, nickname, sku,
   email, mailbox, tagged, seen, short, userKey, accountKey, slot, shard, range, stock, wide,
   nested, contact, skuCode, batchId, lotId]

/-- The name of a type. -/
def name : Key → String
  | orderId => "OrderId"
  | customerId => "CustomerId"
  | invoiceId => "InvoiceId"
  | sessionId => "SessionId"
  | oddId => "OddId"
  | liveId => "LiveId"
  | evenId => "EvenId"
  | code => "Code"
  | label => "Label"
  | nickname => "Nickname"
  | sku => "Sku"
  | email => "Email"
  | mailbox => "Mailbox"
  | tagged => "Tagged"
  | seen => "Seen"
  | short => "Short"
  | userKey => "UserKey"
  | accountKey => "AccountKey"
  | slot => "Slot"
  | shard => "Shard"
  | range => "Range"
  | stock => "Stock"
  | wide => "Wide"
  | nested => "Nested"
  | contact => "Contact"
  | skuCode => "SkuCode"
  | batchId => "BatchId"
  | lotId => "LotId"

/-- The type with a name. -/
def ofName? (s : String) : Option Key := all.find? (·.name == s)

/-- Where a type comes from. -/
def origin : Key → Origin
  | skuCode | batchId | lotId => .handWritten
  | _ => .generated

end Key

/-! ## Values -/

/-- A region.  Its display text is written as it is, whatever the format. -/
def region : CustomType where
  Carrier := String
  decEq := inferInstance
  order := compare
  trans := inferInstanceAs (Std.TransOrd String)
  lawfulEq := inferInstanceAs (Std.LawfulEqOrd String)
  display _ s := s.toList
  debug f s := f.wrapped "Region" (quoteText s.toList)
  toText s := s
  ofText? s := some s

/-- A zone. -/
def zone : CustomType where
  Carrier := String
  decEq := inferInstance
  order := compare
  trans := inferInstanceAs (Std.TransOrd String)
  lawfulEq := inferInstanceAs (Std.LawfulEqOrd String)
  display f s := f.text s.toList
  debug f s := f.wrapped "Zone" (quoteText s.toList)
  toText s := s
  ofText? s := some s

/-- The types of the values. -/
def values : Key → ValueType Key
  | .orderId | .customerId | .invoiceId | .sessionId | .oddId | .liveId | .evenId | .batchId
  | .lotId => .uuid
  | .code | .label | .nickname | .sku | .email | .mailbox | .tagged | .seen | .short
  | .skuCode => .text
  | .userKey | .accountKey => .tuple user
  | .slot =>
    .tuple <| .cons "order" (.identifier Key.orderId .uuid) <| .cons "slot" (.unsigned 32) <|
      .cons "note" (.option .text) .nil
  | .shard =>
    .tuple <| .cons "region" (.custom region) <| .cons "zone" (.custom zone) <|
      .cons "index" (.unsigned 16) .nil
  | .range => .tuple <| .cons "low" (.signed 64) <| .cons "high" (.signed 64) .nil
  | .stock => .tuple <| .cons "name" .text <| .cons "count" (.unsigned 8) .nil
  | .wide =>
    .tuple <| .cons "a" (.unsigned 8) <| .cons "b" (.signed 8) <| .cons "c" .truth <|
      .cons "d" .char <| .cons "e" (.unsigned 64) <| .cons "f" .text <|
      .cons "g" (.option .uuid) <| .cons "h" (.option (.unsigned 16)) .nil
  | .nested =>
    .tuple <| .cons "user" (.identifier Key.userKey (.tuple user)) <|
      .cons "live" (.identifier Key.liveId .uuid) <| .cons "odd" (.identifier Key.oddId .uuid) .nil
  | .contact =>
    .tuple <| .cons "customer" (.identifier Key.customerId .uuid) <|
      .cons "mailbox" (.identifier Key.mailbox .text) .nil
where
  /-- The components of a user. -/
  user : FieldTypes Key := .cons "tenant_id" .uuid <| .cons "user_id" .text .nil

/-- How the values are made up. -/
def shape : (k : Key) → Shape values (values k)
  | .orderId | .customerId | .invoiceId | .sessionId | .oddId | .liveId | .evenId | .batchId
  | .lotId => .guid
  | .code | .label | .nickname | .sku | .email | .mailbox | .tagged | .seen | .short
  | .skuCode => .text
  | .userKey | .accountKey => .combined user
  | .slot =>
    .combined <| .cons (.identifier Key.orderId) <| .cons (.plain ⟨0, by decide⟩) <|
      .cons (.plain none) .nil
  | .shard =>
    .combined <| .cons (.plain "") <| .cons (.plain "none") <|
      .cons (.plain ⟨0, by decide⟩) .nil
  | .range =>
    .combined <| .cons (.plain ⟨0, by decide⟩) <| .cons (.plain ⟨0, by decide⟩) .nil
  | .stock => .combined <| .cons (.plain "") <| .cons (.plain ⟨0, by decide⟩) .nil
  | .wide =>
    .combined <| .cons (.plain ⟨0, by decide⟩) <| .cons (.plain ⟨0, by decide⟩) <|
      .cons (.plain false) <| .cons (.plain '\x00') <| .cons (.plain ⟨0, by decide⟩) <|
      .cons (.plain "") <| .cons (.plain none) <| .cons (.plain none) .nil
  | .nested =>
    .combined <| .cons (.identifier Key.userKey) <| .cons (.identifier Key.liveId) <|
      .cons (.identifier Key.oddId) .nil
  | .contact =>
    .combined <| .cons (.identifier Key.customerId) <| .cons (.identifier Key.mailbox) .nil
where
  /-- The components of a user. -/
  user : Parts values values.user := .cons (.plain Uuid.nil) <| .cons (.plain "") .nil

/-! ## Hooks -/

/-- A text in capital letters. -/
def capital (s : String) : String := String.ofList (uppercase s.toList)

/-- A text in small letters. -/
def small (s : String) : String := String.ofList (lowercase s.toList)

/-- Sets the lowest bit. -/
def oddHook : HookFunction Uuid := ⟨.value, fun u ↦ (⟨u.bits ||| 1⟩ : Uuid)⟩

/-- Rejects the nil UUID, and clears the first byte of any other. -/
def liveHook : HookFunction Uuid :=
  ⟨.resultValue, fun u ↦
    if u.isNil then .error (.hook "nil") else .ok (⟨(u.bits.setWidth 120).setWidth 128⟩ : Uuid)⟩

/-- Rejects a UUID whose lowest bit is set. -/
def evenHook : HookFunction Uuid :=
  ⟨.resultUnit, fun u ↦
    if u.toNat % 2 == 0 then .ok ()
    else .error (.text (String.ofList (u.write .small) ++ " is odd"))⟩

/-- Rejects a text with a blank, and takes any other in capital letters. -/
def skuHook : HookFunction String :=
  ⟨.resultValue, fun s ↦
    if s.toList.contains ' ' then
      .error (.text (String.ofList (quoteText s.toList) ++ " contains a space"))
    else .ok (capital s)⟩

/-- Rejects an address without `@`, for the given cause, and takes any other in small letters. -/
def addressHook (missing : Cause) : HookFunction String :=
  ⟨.resultValue, fun s ↦ if s.toList.contains '@' then .ok (small s) else .error missing⟩

/-- Takes away the white space at both ends, and puts a tilde in front. -/
def taggedHook : HookFunction String := ⟨.value, fun s ↦ String.ofList ('~' :: trim s.toList)⟩

/-- Only looks. -/
def seenHook : HookFunction String := ⟨.unit, fun _ ↦ ()⟩

/-- Rejects a text of more than four characters. -/
def shortHook : HookFunction String :=
  ⟨.resultUnit, fun s ↦ if s.length ≤ 4 then .ok () else .error (.text "too long")⟩

/-- Takes the user in capital letters. -/
def userHook : HookFunction (Uuid × String × Unit) :=
  ⟨.value, fun (tenant, user, _) ↦ (tenant, capital user, ())⟩

/-- The tenant whose root user is reserved. -/
def reservedTenant : Uuid := ⟨0xdead⟩

/-- Rejects a reserved user, and takes any other in capital letters. -/
def accountHook : HookFunction (Uuid × String × Unit) :=
  ⟨.resultValue, fun (tenant, user, _) ↦
    if tenant = reservedTenant && user == "root" then .error (.text "reserved account")
    else .ok (tenant, capital user, ())⟩

/-- Rejects a range whose lower end is above the upper one. -/
def rangeHook : HookFunction (values .range).Val :=
  ⟨.resultUnit, fun (low, high, _) ↦
    if low.1 ≤ high.1 then .ok ()
    else .error (.text (toString low.1 ++ " > " ++ toString high.1))⟩

/-- Rejects a stock of nothing. -/
def stockHook : HookFunction (values .stock).Val :=
  ⟨.resultUnit, fun (_, count, _) ↦ if count.1 = 0 then .error (.hook "zero") else .ok ()⟩

/-- Rejects a text with white space, and takes any other in capital letters. -/
def skuCodeHook : HookFunction String :=
  ⟨.resultValue, fun s ↦
    if s.toList.any isBlank then .error (.text "whitespace is not allowed") else .ok (capital s)⟩

/-- The hooks of the types. -/
def hook : (k : Key) → Option (HookFunction (values k).Val)
  | .oddId => some oddHook
  | .liveId => some liveHook
  | .evenId => some evenHook
  | .sku => some skuHook
  | .email => some (addressHook (.hook "missing @"))
  | .mailbox => some (addressHook (.text "missing @"))
  | .tagged => some taggedHook
  | .seen => some seenHook
  | .short => some shortHook
  | .userKey => some userHook
  | .accountKey => some accountHook
  | .range => some rangeHook
  | .stock => some stockHook
  | .skuCode => some skuCodeHook
  | .orderId | .customerId | .invoiceId | .sessionId | .code | .label | .nickname | .slot | .shard
  | .wide | .nested | .contact | .batchId | .lotId => none

/-! ## The family -/

/-- The rank of a type: identifiers with identifiers as components come after those. -/
def rank : Key → Nat
  | .slot | .nested | .contact => 1
  | _ => 0

/-- The types of the catalogue. -/
def family : Family Key where
  name := Key.name
  origin := Key.origin
  values := values
  shape := shape
  hook := hook
  rank := rank
  rank_lt k := by cases k <;> decide

end TypedIds.Catalogue
