import Gowaves.Ride.Natives
import Gowaves.Ride.TreeEvaluator
import Gowaves.GoLib.GoMap

/-!
# The library version 6 tables (`pkg/ride/functions.gen.go`)

The tables of library version 6 as the generator wrote them: `CatalogueV6`, the costs the
estimator charges, and `EvaluationCatalogueV6EvaluatorV2`, the costs the evaluator charges
once Ride V6 is activated.  The keys are the native names, all ASCII, so a Go string is looked
up through `latin1`, which maps ASCII bytes to the same characters and is injective.

`functionsV6` is the part of the version 6 function table whose functions the model has, under
their names there; `expressionEnvV6` is the environment of an expression script evaluated by
evaluator V2 with these tables (no library constants are modelled).
-/

set_option autoImplicit false

namespace Gowaves.Ride

open GoLib

def catalogueV6 : GoMap String Int64 := [
  ("!", 1), ("!=", 1), ("-", 1), ("0", 1), ("1", 1), ("100", 1), ("1001", 20), ("1004", 15),
  ("1005", 5), ("1006", 60), ("1007", 10), ("1008", 10), ("1009", 200), ("101", 1), ("102", 1),
  ("1020", 75), ("1021", 75), ("103", 1), ("104", 1), ("1040", 10), ("1041", 10), ("1042", 10),
  ("1043", 10), ("105", 1), ("1050", 10), ("1051", 10), ("1052", 10), ("1053", 10), ("1054", 10),
  ("1055", 10), ("1056", 10), ("1057", 10), ("1058", 10), ("106", 1), ("1060", 5), ("1061", 1),
  ("1062", 1), ("1063", 1), ("107", 1), ("1070", 5), ("108", 28), ("1080", 10), ("1081", 1),
  ("109", 100), ("1090", 1), ("1091", 1), ("1092", 1), ("1093", 1), ("110", 1), ("1100", 1),
  ("1101", 1), ("1102", 4), ("1103", 5), ("1104", 5), ("1105", 7), ("118", 270), ("119", 200),
  ("1200", 7), ("1201", 1), ("1202", 1), ("1203", 3), ("1204", 3), ("1205", 1), ("1206", 2),
  ("1207", 3), ("1208", 3), ("1209", 1), ("1210", 2), ("1211", 11), ("1212", 4), ("1213", 51),
  ("1300", 1), ("1301", 1), ("1302", 1), ("1303", 1), ("1304", 1), ("1305", 1), ("1306", 1),
  ("1307", 1), ("1308", 1), ("1309", 1), ("1310", 1), ("1311", 1), ("1312", 1), ("1313", 1),
  ("1314", 1), ("1315", 1), ("1316", 1), ("1317", 1), ("1318", 1), ("1319", 1), ("1320", 1),
  ("1350", 1), ("2", 1), ("200", 1), ("201", 6), ("202", 6), ("203", 2), ("204", 6), ("205", 6),
  ("2400", 1200), ("2401", 1300), ("2402", 1400), ("2403", 1500), ("2404", 1600), ("2405", 1700),
  ("2406", 1800), ("2407", 1900), ("2408", 2000), ("2409", 2100), ("2410", 2200), ("2411", 2300),
  ("2412", 2400), ("2413", 2500), ("2414", 2600), ("2450", 800), ("2451", 850), ("2452", 950),
  ("2453", 1000), ("2454", 1050), ("2455", 1100), ("2456", 1150), ("2457", 1200), ("2458", 1250),
  ("2459", 1300), ("2460", 1350), ("2461", 1400), ("2462", 1450), ("2463", 1550), ("2464", 1600),
  ("2500", 43), ("2501", 50), ("2502", 64), ("2503", 93), ("2504", 150), ("2600", 500),
  ("2601", 550), ("2602", 625), ("2603", 750), ("2700", 20), ("2701", 39), ("2702", 74),
  ("2703", 147), ("2800", 13), ("2801", 29), ("2802", 58), ("2803", 115), ("2900", 12),
  ("2901", 23), ("2902", 47), ("2903", 93), ("3", 1), ("300", 1), ("303", 20), ("304", 20),
  ("305", 1), ("306", 20), ("307", 20), ("310", 1), ("311", 8), ("312", 8), ("313", 64),
  ("314", 64), ("315", 64), ("316", 1), ("317", 1), ("318", 8), ("319", 8), ("320", 8), ("400", 2),
  ("401", 2), ("405", 20), ("406", 3), ("407", 3), ("408", 192), ("409", 192), ("410", 1),
  ("411", 8), ("412", 1), ("413", 65), ("414", 65), ("415", 65), ("416", 1), ("420", 1),
  ("421", 1), ("422", 1), ("423", 65), ("424", 65), ("425", 160), ("500", 180), ("501", 195),
  ("502", 136), ("503", 118), ("504", 1000), ("600", 3), ("601", 1), ("602", 35), ("603", 40),
  ("604", 10), ("605", 10), ("701", 30), ("800", 2700), ("801", 1650), ("900", 70),
  ("@extrNative(1040)", 10), ("@extrNative(1041)", 10), ("@extrNative(1042)", 10),
  ("@extrNative(1043)", 10), ("@extrNative(1050)", 10), ("@extrNative(1051)", 10),
  ("@extrNative(1052)", 10), ("@extrNative(1053)", 10), ("@extrNative(1055)", 10),
  ("@extrNative(1056)", 10), ("@extrNative(1057)", 10), ("@extrNative(1058)", 10),
  ("@extrNative(1062)", 1), ("@extrUser(addressFromString)", 124), ("@extrUser(getBinary)", 10),
  ("@extrUser(getBoolean)", 10), ("@extrUser(getInteger)", 10), ("@extrUser(getString)", 10),
  ("Address", 1), ("Alias", 1), ("Asset", 10), ("AssetPair", 2), ("AttachedPayment", 2),
  ("BalanceDetails", 4), ("BinaryEntry", 2), ("BlockInfo", 7), ("BooleanEntry", 2), ("Burn", 2),
  ("BurnTransaction", 10), ("Buy", 0), ("Ceiling", 0), ("CreateAliasTransaction", 9),
  ("DataTransaction", 9), ("DeleteEntry", 1), ("Down", 0), ("ExchangeTransaction", 14),
  ("Floor", 0), ("GenesisTransaction", 6), ("HalfDown", 0), ("HalfEven", 0), ("HalfUp", 0),
  ("IntegerEntry", 2), ("Invocation", 8), ("InvokeExpressionTransaction", 10),
  ("InvokeScriptTransaction", 13), ("Issue", 7), ("IssueTransaction", 14), ("Lease", 3),
  ("LeaseCancel", 1), ("LeaseCancelTransaction", 9), ("LeaseTransaction", 10),
  ("MassTransferTransaction", 13), ("Md5", 0), ("NoAlg", 0), ("Order", 14),
  ("PaymentTransaction", 10), ("Reissue", 3), ("ReissueTransaction", 11), ("ScriptTransfer", 3),
  ("Sell", 0), ("SetAssetScriptTransaction", 10), ("SetScriptTransaction", 9), ("Sha1", 0),
  ("Sha224", 0), ("Sha256", 0), ("Sha3224", 0), ("Sha3256", 0), ("Sha3384", 0), ("Sha3512", 0),
  ("Sha384", 0), ("Sha512", 0), ("SponsorFee", 2), ("SponsorFeeTransaction", 10),
  ("StringEntry", 2), ("Transfer", 2), ("TransferTransaction", 13), ("Unit", 0), ("Up", 0),
  ("UpdateAssetInfoTransaction", 11), ("addressFromPublicKey", 63), ("contains", 3),
  ("containsElement", 5), ("dropRight", 20), ("dropRightBytes", 6), ("getBinary", 30),
  ("getBoolean", 30), ("getInteger", 30), ("getString", 30), ("isDefined", 1),
  ("parseIntValue", 2), ("sqrt", 2), ("sqrtBigInt", 5), ("takeRight", 20), ("takeRightBytes", 6),
  ("throw", 1), ("value", 2), ("valueOrElse", 2), ("valueOrErrorMessage", 2)]

def evaluationCatalogueV6EvaluatorV2 : GoMap String Int64 := [
  ("!", 1), ("!=", 1), ("-", 1), ("0", 1), ("1", 1), ("100", 1), ("1001", 20), ("1004", 15),
  ("1005", 5), ("1006", 60), ("1007", 10), ("1008", 10), ("1009", 200), ("101", 1), ("102", 1),
  ("1020", 75), ("1021", 75), ("103", 1), ("104", 1), ("1040", 10), ("1041", 10), ("1042", 10),
  ("1043", 10), ("105", 1), ("1050", 10), ("1051", 10), ("1052", 10), ("1053", 10), ("1054", 10),
  ("1055", 10), ("1056", 10), ("1057", 10), ("1058", 10), ("106", 1), ("1060", 5), ("1061", 1),
  ("1062", 1), ("1063", 1), ("107", 1), ("1070", 5), ("108", 28), ("1080", 10), ("1081", 1),
  ("109", 100), ("1090", 1), ("1091", 1), ("1092", 1), ("1093", 1), ("110", 1), ("1100", 1),
  ("1101", 1), ("1102", 4), ("1103", 5), ("1104", 5), ("1105", 7), ("118", 270), ("119", 200),
  ("1200", 7), ("1201", 1), ("1202", 1), ("1203", 3), ("1204", 3), ("1205", 1), ("1206", 2),
  ("1207", 3), ("1208", 3), ("1209", 1), ("1210", 2), ("1211", 11), ("1212", 4), ("1213", 51),
  ("1300", 1), ("1301", 1), ("1302", 1), ("1303", 1), ("1304", 1), ("1305", 1), ("1306", 1),
  ("1307", 1), ("1308", 1), ("1309", 1), ("1310", 1), ("1311", 1), ("1312", 1), ("1313", 1),
  ("1314", 1), ("1315", 1), ("1316", 1), ("1317", 1), ("1318", 1), ("1319", 1), ("1320", 1),
  ("1350", 1), ("2", 1), ("200", 1), ("201", 6), ("202", 6), ("203", 2), ("204", 6), ("205", 6),
  ("2400", 1200), ("2401", 1300), ("2402", 1400), ("2403", 1500), ("2404", 1600), ("2405", 1700),
  ("2406", 1800), ("2407", 1900), ("2408", 2000), ("2409", 2100), ("2410", 2200), ("2411", 2300),
  ("2412", 2400), ("2413", 2500), ("2414", 2600), ("2450", 800), ("2451", 850), ("2452", 950),
  ("2453", 1000), ("2454", 1050), ("2455", 1100), ("2456", 1150), ("2457", 1200), ("2458", 1250),
  ("2459", 1300), ("2460", 1350), ("2461", 1400), ("2462", 1450), ("2463", 1550), ("2464", 1600),
  ("2500", 43), ("2501", 50), ("2502", 64), ("2503", 93), ("2504", 150), ("2600", 500),
  ("2601", 550), ("2602", 625), ("2603", 750), ("2700", 20), ("2701", 39), ("2702", 74),
  ("2703", 147), ("2800", 13), ("2801", 29), ("2802", 58), ("2803", 115), ("2900", 12),
  ("2901", 23), ("2902", 47), ("2903", 93), ("3", 1), ("300", 1), ("303", 20), ("304", 20),
  ("305", 1), ("306", 20), ("307", 20), ("310", 1), ("311", 8), ("312", 8), ("313", 64),
  ("314", 64), ("315", 64), ("316", 1), ("317", 1), ("318", 8), ("319", 8), ("320", 8), ("400", 2),
  ("401", 2), ("405", 20), ("406", 3), ("407", 3), ("408", 192), ("409", 192), ("410", 1),
  ("411", 8), ("412", 1), ("413", 65), ("414", 65), ("415", 65), ("416", 1), ("420", 1),
  ("421", 1), ("422", 1), ("423", 65), ("424", 65), ("425", 160), ("500", 180), ("501", 195),
  ("502", 136), ("503", 118), ("504", 1000), ("600", 3), ("601", 1), ("602", 35), ("603", 40),
  ("604", 10), ("605", 10), ("701", 30), ("800", 2700), ("801", 1650), ("900", 70),
  ("@extrNative(1040)", 10), ("@extrNative(1041)", 10), ("@extrNative(1042)", 10),
  ("@extrNative(1043)", 10), ("@extrNative(1050)", 10), ("@extrNative(1051)", 10),
  ("@extrNative(1052)", 10), ("@extrNative(1053)", 10), ("@extrNative(1055)", 10),
  ("@extrNative(1056)", 10), ("@extrNative(1057)", 10), ("@extrNative(1058)", 10),
  ("@extrNative(1062)", 1), ("@extrUser(addressFromString)", 124), ("@extrUser(getBinary)", 10),
  ("@extrUser(getBoolean)", 10), ("@extrUser(getInteger)", 10), ("@extrUser(getString)", 10),
  ("Address", 1), ("Alias", 1), ("Asset", 1), ("AssetPair", 1), ("AttachedPayment", 1),
  ("BalanceDetails", 1), ("BinaryEntry", 1), ("BlockInfo", 1), ("BooleanEntry", 1), ("Burn", 1),
  ("BurnTransaction", 1), ("Buy", 0), ("Ceiling", 1), ("CreateAliasTransaction", 1),
  ("DataTransaction", 1), ("DeleteEntry", 1), ("Down", 1), ("ExchangeTransaction", 1),
  ("Floor", 1), ("GenesisTransaction", 1), ("HalfDown", 0), ("HalfEven", 1), ("HalfUp", 1),
  ("IntegerEntry", 1), ("Invocation", 1), ("InvokeExpressionTransaction", 1),
  ("InvokeScriptTransaction", 1), ("Issue", 1), ("IssueTransaction", 1), ("Lease", 1),
  ("LeaseCancel", 1), ("LeaseCancelTransaction", 1), ("LeaseTransaction", 1),
  ("MassTransferTransaction", 1), ("Md5", 1), ("NoAlg", 1), ("Order", 1),
  ("PaymentTransaction", 1), ("Reissue", 1), ("ReissueTransaction", 1), ("ScriptTransfer", 1),
  ("Sell", 0), ("SetAssetScriptTransaction", 1), ("SetScriptTransaction", 1), ("Sha1", 1),
  ("Sha224", 1), ("Sha256", 1), ("Sha3224", 1), ("Sha3256", 1), ("Sha3384", 1), ("Sha3512", 1),
  ("Sha384", 1), ("Sha512", 1), ("SponsorFee", 1), ("SponsorFeeTransaction", 1),
  ("StringEntry", 1), ("Transfer", 1), ("TransferTransaction", 1), ("Unit", 1), ("Up", 0),
  ("UpdateAssetInfoTransaction", 1), ("addressFromPublicKey", 63), ("contains", 3),
  ("containsElement", 5), ("dropRight", 20), ("dropRightBytes", 6), ("getBinary", 30),
  ("getBoolean", 30), ("getInteger", 30), ("getString", 30), ("isDefined", 1),
  ("parseIntValue", 2), ("sqrt", 2), ("sqrtBigInt", 5), ("takeRight", 20), ("takeRightBytes", 6),
  ("throw", 2), ("value", 2), ("valueOrElse", 2), ("valueOrErrorMessage", 2)]

/-- A table keyed by native names, read with a Go string. -/
def catalogueGet {α : Type} (t : GoMap String α) (n : GoString) : Option α := t.get (latin1 n)

/-- The entries of `_functions_map_V6` whose functions are modelled. -/
def functionsV6 : GoMap String Natives.RideFunction :=
  [("0", Natives.eq), ("!=", Natives.neq), ("2", Natives.throw), ("throw", Natives.throw0)]

/-- An expression script of library version 6, evaluated by evaluator V2. -/
def expressionEnvV6 : Environment Unit where
  system := catalogueGet functionsV6
  costs := catalogueGet evaluationCatalogueV6EvaluatorV2
  constants _ := none
  newTx := .rideUnit
  newInvocation := .rideUnit
  objectToActions _ := .error (ascii "not a DApp")
  convertToAction _ := .error (ascii "not a DApp")

end Gowaves.Ride
