import Issuance.Engine.Query
import Issuance.Json.Shape
import Issuance.Service.Route
import Issuance.Service.View
/-! # Serving one operation

Each operation reads its path parameter and body, checks its addresses and
calls the engine; the first failure answers, with its class's status, or as
an internal error with its text withheld. -/
namespace Issuance.Service

open Engine Json

/-- The status of a failure's class; a failure of no class has none. -/
def statusOf : Code → Option Nat
  | .invalidInput | .invalidAccount | .oracleMismatch => some 400
  | .unauthorized => some 403
  | .limitReached => some 429
  | .unavailable | .oracleUnavailable => some 503
  | .insufficientFunds => some 402
  | .arithmeticOverflow => some 422
  | .internal => none

def failure (f : Fault) : Response :=
  match statusOf f.code with
  | some status => problem status f.code.name f.message
  | none => problem 500 "internal" "internal error"

/-- What serving an operation sees: the engine, the database, the clock and
an identifier no one has used. -/
structure Backend where
  engine : Engine
  db : Store.Database
  now : Int
  fresh : String
  wall : Int

def Backend.context (b : Backend) : Context := ⟨b.now, b.fresh, true⟩

/-- What serving an operation did: the answer, the database after it, the
events it committed, and whether it used the fresh identifier. -/
structure Handled where
  response : Response
  db : Store.Database
  events : List Event := []
  usedFresh : Bool := false

def Backend.reply (b : Backend) (r : Response) : Handled := ⟨r, b.db, [], false⟩

def Backend.commit (b : Backend) (caller : Option Address) (op : Store.Txn (α × List Event))
    (k : α → Response) : Handled :=
  match caller.map b.engine.authorize with
  | some (.error f) => b.reply (failure f)
  | _ =>
    match runAtomic b.db op with
    | .ok (a, evs, db) => ⟨k a, db, evs, false⟩
    | .error f => b.reply (failure f)

/-- Run an administrator's change, then a query on what it made, and answer
with a view of the query's result; the change stands if the query fails. -/
def Backend.commitThen (b : Backend) (caller : Address) (op : Store.Txn (α × List Event))
    (after : α → Store.Txn β) (k : β → Response) : Handled :=
  match b.engine.authorize caller with
  | .error f => b.reply (failure f)
  | .ok () =>
    match runAtomic b.db op with
    | .error f => b.reply (failure f)
    | .ok (a, evs, db) =>
      match runView db (after a) with
      | .ok x => ⟨k x, db, evs, false⟩
      | .error f => ⟨failure f, db, evs, false⟩

def Backend.read (b : Backend) (op : Store.Txn α) (k : α → Response) : Handled :=
  match runView b.db op with
  | .ok a => b.reply (k a)
  | .error f => b.reply (failure f)

def tagged (field typ tag : String) : String := field ++ " " ++ typ ++ " \"json:\\\"" ++ tag ++ "\\\"\""

def structText (parts : List String) : String := "struct \x7b " ++ "; ".intercalate parts ++ " \x7d"

def textRecord (fields : List (String × String)) : Shape :=
  .record "" (structText (fields.map fun (f, tag) => tagged f "string" tag)) (fields.map fun (_, tag) => (tag, .text))

def limitFields : List (String × Shape) :=
  [("lifetimeCap", .unsigned 64), ("periodCap", .unsigned 64), ("minRequestAmount", .unsigned 64)]

def quoteShape : Shape := .record "quoteRequest" "server.quoteRequest" [("amount", .unsigned 64)]

def legShape : Shape :=
  .record "legJSON" "server.legJSON"
    [("asset", .text), ("decimals", .unsigned 16), ("weightBps", .unsigned 16), ("priceFeed", .text)]

def mintSettingShape : Shape :=
  .record "setMintChannelRequest" "server.setMintChannelRequest"
    ([("active", .flag), ("feeBps", .unsigned 16), ("basket", .many legShape)] ++ limitFields ++
      [("assets", .many .text), ("decimals", .many (.unsigned 16)), ("weightsBps", .many (.unsigned 16)),
        ("priceFeeds", .many .text)])

def burnSettingShape : Shape :=
  .record "" (structText [tagged "Active" "bool" "active", tagged "OutputAsset" "string" "outputAsset",
      tagged "OutputDecimals" "uint16" "outputDecimals", tagged "OutputFeed" "string" "outputFeed",
      tagged "FeeBps" "uint16" "feeBps", "server.limitsJSON"])
    ([("active", .flag), ("outputAsset", .text), ("outputDecimals", .unsigned 16), ("outputFeed", .text),
      ("feeBps", .unsigned 16)] ++ limitFields)

def legRouteShape : Shape :=
  .record "legRouteJSON" "server.legRouteJSON"
    [("asset", .text), ("source", .text), ("destination", .text), ("feed", .text)]

def mintShape : Shape :=
  .record "" (structText [tagged "Amount" "uint64" "amount", tagged "Recipient" "string" "recipient",
      tagged "Legs" "[]server.legRouteJSON" "legs"])
    [("amount", .unsigned 64), ("recipient", .text), ("legs", .many legRouteShape)]

def burnRouteShape : Shape :=
  textRecord [("StableSource", "stableSource"), ("StableCustody", "stableCustody"),
    ("OutputSource", "outputSource"), ("OutputDestination", "outputDestination"), ("Feed", "feed")]

def burnShape : Shape :=
  .record "" (structText [tagged "Amount" "uint64" "amount", tagged "Route" burnRouteShape.typeText "route"])
    [("amount", .unsigned 64), ("route", burnRouteShape)]

def plainRecord (fields : List (String × String × String × Shape)) : Shape :=
  .record "" (structText (fields.map fun (f, typ, tag, _) => tagged f typ tag)) (fields.map fun (_, _, tag, s) => (tag, s))

def appConfigShape : Shape := textRecord [("CustodialSigner", "custodialSigner")]

def periodShape : Shape := plainRecord [("RollingPeriodHours", "uint32", "rollingPeriodHours", .unsigned 32)]

def mintChannelShape : Shape :=
  plainRecord [("Path", "string", "path", .text), ("Capacity", "uint16", "capacity", .unsigned 16)]

def burnChannelShape : Shape := textRecord [("Path", "path")]

def withdrawShape : Shape :=
  plainRecord [("Source", "string", "source", .text), ("Destination", "string", "destination", .text),
    ("Amount", "uint64", "amount", .unsigned 64)]

def assetShape : Shape :=
  plainRecord [("ID", "string", "id", .text), ("Decimals", "uint16", "decimals", .unsigned 16),
    ("Authority", "string", "authority", .text)]

def releaseShape : Shape := textRecord [("NewAuthority", "newAuthority")]

def feedShape : Shape :=
  plainRecord [("ID", "string", "id", .text), ("Description", "string", "description", .text),
    ("Decimals", "uint8", "decimals", .unsigned 8)]

def roundShape : Shape := plainRecord [("Answer", "int64", "answer", .signed 64)]

def accountShape : Shape := textRecord [("ID", "id"), ("Asset", "asset")]

def decodeBody (s : Shape) (body : String) : Except Fault Json :=
  match s.readBody body with
  | .ok j => .ok j
  | .error .empty => .error (Fault.raise .invalidInput "request body required")
  | .error (.malformed m) => .error (Fault.raise .invalidInput m)

def textAt (j : Json) (k : String) : String :=
  match j.field? k with
  | some (.str s) => s
  | _ => ""

def natAt (j : Json) (k : String) : Nat :=
  match j.field? k with
  | some (.number t) => (digitsValue? t.toList).getD 0
  | _ => 0

def intAt (j : Json) (k : String) : Int :=
  match j.field? k with
  | some (.number t) => (signedOf? 64 t).getD 0
  | _ => 0

def flagAt (j : Json) (k : String) : Bool :=
  match j.field? k with
  | some (.bool b) => b
  | _ => false

/-- A list member of a read body; a list never given is none. -/
def listAt (j : Json) (k : String) : Option (List Json) :=
  match j.field? k with
  | some (.arr xs) => some xs
  | _ => none

/-- An optional bech32 address: blank is the zero address; a bad one is an
invalid input that names the field. -/
def parseAddress (field raw : String) : Except Fault Address :=
  let t := Text.trim raw
  if t.isEmpty then .ok Address.zero else
  match Address.parse t with
  | .ok a => .ok a
  | .error e => .error (Fault.raise .invalidInput (field ++ ": " ++ e))

def limitsAt (j : Json) : Limits := ⟨natAt j "lifetimeCap", natAt j "periodCap", natAt j "minRequestAmount"⟩

/-- The settings of a mint channel from a read body: the basket as legs, or
as parallel arrays when any of the four is given (but not both). -/
def mintSettingsAt (j : Json) : Except Fault MintSettings := do
  let legs := (listAt j "basket").getD []
  let arrays := ["assets", "decimals", "weightsBps", "priceFeeds"].any fun k => (listAt j k).isSome
  let basket ← if arrays then
      if !legs.isEmpty then throw (Fault.raise .invalidInput "basket given both as legs and arrays")
      else
        let items := fun k => (listAt j k).getD []
        let texts := fun k => (items k).map fun x => match x with | .str s => s | _ => ""
        let nums := fun k => (items k).map fun x => match x with
          | .number t => (digitsValue? t.toList).getD 0
          | _ => 0
        LegacyBasket.legs ⟨texts "assets", nums "decimals", nums "weightsBps", texts "priceFeeds"⟩
    else pure (legs.map fun l => ⟨textAt l "asset", natAt l "decimals", natAt l "weightBps", textAt l "priceFeed"⟩)
  pure ⟨flagAt j "active", basket, natAt j "feeBps", limitsAt j⟩

def wholeNumber? (s : String) : Option Int :=
  let cs := s.toList
  let (neg, ds) := match cs with
    | '-' :: r => (true, r)
    | '+' :: r => (false, r)
    | r => (false, r)
  if ds.isEmpty || !ds.all Char.isDigit then none else
  let n : Nat := ds.foldl (fun acc c => acc * 10 + (c.toNat - 48)) 0
  if neg then (if n ≤ Nat.pow 2 63 then some (-(n : Int)) else none)
  else if n < Nat.pow 2 63 then some n else none

/-- The tokens of a header: its value split at commas, each trimmed and in
lower case. -/
def headerTokens (r : Request) (name : String) : List String :=
  ((Text.trim (r.header name)).splitOn ",").map fun t => Text.trim t.toLower

/-- The event stream's answer: an error text, whether or not the request
can be upgraded (the connection cannot be taken here). -/
def streamAnswer (r : Request) : Response :=
  if !(headerTokens r "Connection").contains "upgrade" then
    textResponse 426 ("WebSocket protocol violation: Connection header " ++ Text.quoted (r.header "Connection") ++
      " does not contain Upgrade\n")
  else if !(headerTokens r "Upgrade").contains "websocket" then
    textResponse 426 ("WebSocket protocol violation: Upgrade header " ++ Text.quoted (r.header "Upgrade") ++
      " does not contain websocket\n")
  else if r.header "Sec-WebSocket-Version" != "13" then
    textResponse 400 ("unsupported WebSocket protocol version (only 13 is supported): " ++
      Text.quoted (r.header "Sec-WebSocket-Version") ++ "\n")
  else if r.header "Sec-WebSocket-Key" = "" then
    textResponse 400 "WebSocket protocol violation: missing Sec-WebSocket-Key\n"
  else textResponse 101 "Internal Server Error\n"

def auditAnswer (log : Option AuditLog) (r : Request) : Response :=
  match log with
  | none => problem 503 "unavailable" "audit log not configured"
  | some log =>
    let raw := Text.trim (r.query "limit")
    let limit : Option Int := if raw.isEmpty then some 0 else (wholeNumber? raw).filter (0 ≤ ·)
    match limit with
    | none => problem 400 "invalid_input" "limit must be a non-negative integer"
    | some n =>
      match log.recent (r.query "type") (r.query "channel") n with
      | .error _ => problem 500 "internal" "internal error"
      | .ok entries =>
        answer 200 (.arr (entries.filterMap fun e => match decodeAttributes e.attributes with
          | .ok a => some (auditView e a)
          | .error _ => none))

def Backend.withBody (b : Backend) (s : Shape) (body : String) (k : Json → Handled) : Handled :=
  match decodeBody s body with
  | .ok j => k j
  | .error f => b.reply (failure f)

def Backend.attempt (b : Backend) (r : Except Fault α) (k : α → Handled) : Handled :=
  match r with
  | .ok a => k a
  | .error f => b.reply (failure f)

def Backend.serve (b : Backend) (caller : Address) (log : Option AuditLog) (r : Request) : Endpoint → Handled
  | .getAppConfig => b.read getAppConfig fun c => answer 200 (appConfigView c)
  | .createAppConfig => b.withBody appConfigShape r.body fun j =>
    b.attempt (parseAddress "custodialSigner" (textAt j "custodialSigner")) fun signer =>
      b.commit (some caller) (createAppConfig signer) fun c => answer 201 (appConfigView c)
  | .setAppConfig => b.withBody periodShape r.body fun j =>
    b.commit (some caller) (setAppConfig (natAt j "rollingPeriodHours")) fun c => answer 200 (appConfigView c)
  | .listChannels .mint => b.read (listMintChannels b.now) fun cs =>
    answer 200 (.arr (cs.map fun (c, n) => mintChannelView c n))
  | .listChannels .burn => b.read (listBurnChannels b.now) fun cs =>
    answer 200 (.arr (cs.map fun (c, n) => burnChannelView c n))
  | .createChannel .mint => b.withBody mintChannelShape r.body fun j =>
    b.commit (some caller) (createMintChannel (textAt j "path") (natAt j "capacity")) fun c =>
      answer 201 (mintChannelView c 0)
  | .createChannel .burn => b.withBody burnChannelShape r.body fun j =>
    b.commit (some caller) (createBurnChannel (textAt j "path")) fun c => answer 201 (burnChannelView c 0)
  | .getChannel .mint id => b.attempt (ChannelId.parse id) fun cid =>
    b.read (getMintChannel b.now cid) fun (c, n) => answer 200 (mintChannelView c n)
  | .getChannel .burn id => b.attempt (ChannelId.parse id) fun cid =>
    b.read (getBurnChannel b.now cid) fun (c, n) => answer 200 (burnChannelView c n)
  | .setChannel .mint id => b.attempt (ChannelId.parse id) fun cid =>
    b.withBody mintSettingShape r.body fun j =>
    b.attempt (mintSettingsAt j) fun settings =>
    b.commitThen caller (setMintChannel b.now cid settings) (fun c => getMintChannel b.now c.id)
      fun (c, n) => answer 200 (mintChannelView c n)
  | .setChannel .burn id => b.attempt (ChannelId.parse id) fun cid =>
    b.withBody burnSettingShape r.body fun j =>
    let settings : BurnSettings :=
      ⟨flagAt j "active", textAt j "outputAsset", natAt j "outputDecimals", textAt j "outputFeed",
        natAt j "feeBps", limitsAt j⟩
    b.commitThen caller (setBurnChannel b.now cid settings) (fun c => getBurnChannel b.now c.id)
      fun (c, n) => answer 200 (burnChannelView c n)
  | .quote .mint id => b.attempt (ChannelId.parse id) fun cid =>
    b.withBody quoteShape r.body fun j =>
    b.read (quoteMint b.engine b.context cid (natAt j "amount")) fun q => answer 200 (mintQuoteView q)
  | .quote .burn id => b.attempt (ChannelId.parse id) fun cid =>
    b.withBody quoteShape r.body fun j =>
    b.read (quoteBurn b.engine b.context cid (natAt j "amount")) fun q => answer 200 (burnQuoteView q)
  | .convert .mint id => b.attempt (ChannelId.parse id) fun cid =>
    b.withBody mintShape r.body fun j =>
    let legs := ((listAt j "legs").getD []).map fun l =>
      (⟨textAt l "asset", textAt l "source", textAt l "destination", textAt l "feed"⟩ : Channel.Route)
    let req : MintRequest := ⟨cid, caller, natAt j "amount", legs, textAt j "recipient"⟩
    { b.commit none (Engine.mint b.engine b.context req) (fun rc => answer 200 (mintReceiptView rc)) with
      usedFresh := true }
  | .convert .burn id => b.attempt (ChannelId.parse id) fun cid =>
    b.withBody burnShape r.body fun j =>
    let route := (j.field? "route").getD .null
    let req : BurnRequest := ⟨cid, caller, natAt j "amount",
      ⟨textAt route "stableSource", textAt route "stableCustody", textAt route "outputSource",
        textAt route "outputDestination", textAt route "feed"⟩⟩
    { b.commit none (Engine.burn b.engine b.context req) (fun rc => answer 200 (burnReceiptView rc)) with
      usedFresh := true }
  | .withdrawFee => b.withBody withdrawShape r.body fun j =>
    b.commit (some caller) (withdrawFee (textAt j "source") (textAt j "destination") (natAt j "amount"))
      fun w => answer 200 (withdrawalView w)
  | .createAsset => b.withBody assetShape r.body fun j =>
    b.attempt (parseAddress "authority" (textAt j "authority")) fun authority =>
    b.commit (some caller) (createAsset (textAt j "id") (natAt j "decimals") authority)
      fun a => answer 201 (assetView a)
  | .releaseCustody asset => b.withBody releaseShape r.body fun j =>
    b.attempt (parseAddress "newAuthority" (textAt j "newAuthority")) fun next =>
    let asset := Text.trim asset
    b.commit (some caller) (releaseAssetCustody asset next) fun _ =>
      answer 200 (.obj [("asset", .str asset), ("newAuthority", .str next.shown)])
  | .listFeeds => b.read listFeeds fun fs => answer 200 (.arr (fs.map feedView))
  | .createFeed => b.withBody feedShape r.body fun j =>
    b.commit (some caller) (createFeed (textAt j "id") (textAt j "description") (natAt j "decimals"))
      fun f => answer 201 (feedView f)
  | .submitRound feed => b.withBody roundShape r.body fun j =>
    b.commit (some caller) (submitRound b.now feed (intAt j "answer")) fun rd => answer 201 (roundView rd)
  | .listAccounts =>
    let raw := Text.trim (r.query "owner")
    b.attempt (if raw.isEmpty then .ok caller else parseAddress "owner" raw) fun owner =>
    b.read (accountsByOwner owner) fun as => answer 200 (.arr (as.map accountView))
  | .openAccount => b.withBody accountShape r.body fun j =>
    if caller.isZero then b.reply (failure ownerRequired) else
    { b.commit none (openAccount b.context caller (textAt j "id") (textAt j "asset"))
        (fun a => answer 201 (accountView a)) with usedFresh := true }
  | .getAccount id => b.read (account id) fun a => answer 200 (accountView a)
  | .audit => b.reply (auditAnswer log r)
  | .stream => b.reply (streamAnswer r)

end Issuance.Service
