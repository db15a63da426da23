import Issuance.Manifest
import Issuance.Api.View
import Issuance.Api.Request
/-! # Manifests as answered

A manifest is answered entry by entry, each channel with the settings it
would be configured with (or the failure of making them), and a manifest is
read from a request's text or, without one, from a path. -/
namespace Issuance.Api

def mintSettingsJson (s : MintSettings) : Json :=
  obj [("active", .bool s.active), ("fee_bps", .nat s.feeBps), ("basket", .arr (s.basket.map legJson)),
    ("lifetime_cap", .nat s.limits.lifetimeCap), ("period_cap", .nat s.limits.periodCap),
    ("min_request_amount", .nat s.limits.minRequestAmount)]

def burnSettingsJson (s : BurnSettings) : Json :=
  obj [("active", .bool s.active), ("output_asset", .str s.outputAsset), ("output_decimals", .nat s.outputDecimals),
    ("output_feed", .str s.outputFeed), ("fee_bps", .nat s.feeBps), ("lifetime_cap", .nat s.limits.lifetimeCap),
    ("period_cap", .nat s.limits.periodCap), ("min_request_amount", .nat s.limits.minRequestAmount)]

def manifestJson (m : Manifest) : Json :=
  obj [("rolling_period_hours", .nat m.rollingPeriodHours),
    ("assets", .arr (m.assets.map fun a =>
      obj [("id", .str a.id), ("decimals", .nat a.decimals), ("authority", .str a.authority)])),
    ("feeds", .arr (m.feeds.map fun f =>
      obj [("id", .str f.id), ("description", .str f.description), ("decimals", .nat f.decimals),
        ("answer", match f.answer with
          | some a => .int a
          | none => .null)])),
    ("accounts", .arr (m.accounts.map fun a =>
      obj [("id", .str a.id), ("owner", .str a.owner), ("asset", .str a.asset)])),
    ("mint_channels", .arr (m.mintChannels.map fun c =>
      obj [("path", .str c.path), ("capacity", .nat c.capacity), ("uses_legacy_basket", .bool c.usesLegacy),
        ("params", match c.settings with
          | .ok s => mintSettingsJson s
          | .error f => failure f)])),
    ("burn_channels", .arr (m.burnChannels.map fun c =>
      obj [("path", .str c.path), ("params", burnSettingsJson c.settings)]))]

/-- The manifest a request names: its `yaml` text when given, else the file
at `path`, of which only a blank one (no file, an empty manifest) can be
read here. -/
def manifestOf (j : Json) : Read (Except Fault Manifest) := do
  if j.has "yaml" then
    pure ((Manifest.parse (← str j "yaml")).mapError Fault.plain)
  else
    let path ← str j "path"
    if Text.isBlankText path then pure (.ok {})
    else pure (.error (Fault.plain ("open manifest: open " ++ path ++ ": no such file or directory")))

def manifestAnswer (j : Json) : Read Json := do
  pure (match ← manifestOf j with
    | .ok m => manifestJson m
    | .error f => failure f)

end Issuance.Api
