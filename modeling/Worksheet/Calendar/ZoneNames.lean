import Worksheet.Calendar.Zone
import Worksheet.Text.Case

/-!
# Names of zones

A zone may be named by a city, by the abbreviation of a period, or by its name in the zone table.
Cities and abbreviations are read in any case.
-/

namespace Worksheet

namespace Zone

def cities : List (String × String) := [
  ("seattle", "America/Los_Angeles"), ("los angeles", "America/Los_Angeles"),
  ("la", "America/Los_Angeles"), ("san francisco", "America/Los_Angeles"),
  ("sf", "America/Los_Angeles"), ("portland", "America/Los_Angeles"), ("denver", "America/Denver"),
  ("phoenix", "America/Phoenix"), ("chicago", "America/Chicago"), ("dallas", "America/Chicago"),
  ("houston", "America/Chicago"), ("austin", "America/Chicago"), ("new york", "America/New_York"),
  ("nyc", "America/New_York"), ("boston", "America/New_York"), ("miami", "America/New_York"),
  ("washington", "America/New_York"), ("atlanta", "America/New_York"),
  ("honolulu", "Pacific/Honolulu"), ("anchorage", "America/Anchorage"),
  ("toronto", "America/Toronto"), ("vancouver", "America/Vancouver"), ("london", "Europe/London"),
  ("paris", "Europe/Paris"), ("berlin", "Europe/Berlin"), ("amsterdam", "Europe/Amsterdam"),
  ("rome", "Europe/Rome"), ("madrid", "Europe/Madrid"), ("vienna", "Europe/Vienna"),
  ("zurich", "Europe/Zurich"), ("stockholm", "Europe/Stockholm"), ("warsaw", "Europe/Warsaw"),
  ("prague", "Europe/Prague"), ("athens", "Europe/Athens"), ("istanbul", "Europe/Istanbul"),
  ("moscow", "Europe/Moscow"), ("kiev", "Europe/Kyiv"), ("kyiv", "Europe/Kyiv"),
  ("dubai", "Asia/Dubai"), ("mumbai", "Asia/Kolkata"), ("delhi", "Asia/Kolkata"),
  ("tokyo", "Asia/Tokyo"), ("seoul", "Asia/Seoul"), ("beijing", "Asia/Shanghai"),
  ("shanghai", "Asia/Shanghai"), ("hong kong", "Asia/Hong_Kong"), ("singapore", "Asia/Singapore"),
  ("bangkok", "Asia/Bangkok"), ("sydney", "Australia/Sydney"), ("melbourne", "Australia/Melbourne"),
  ("auckland", "Pacific/Auckland"), ("sao paulo", "America/Sao_Paulo"),
  ("mexico city", "America/Mexico_City"), ("cairo", "Africa/Cairo"),
  ("johannesburg", "Africa/Johannesburg")]

def abbreviations : List (String × String) := [
  ("pst", "America/Los_Angeles"), ("pdt", "America/Los_Angeles"), ("mst", "America/Denver"),
  ("mdt", "America/Denver"), ("cst", "America/Chicago"), ("cdt", "America/Chicago"),
  ("est", "America/New_York"), ("edt", "America/New_York"), ("utc", "UTC"), ("gmt", "UTC"),
  ("bst", "Europe/London"), ("cet", "Europe/Paris"), ("cest", "Europe/Paris"),
  ("eet", "Europe/Kyiv"), ("eest", "Europe/Kyiv"), ("msk", "Europe/Moscow"),
  ("ist", "Asia/Kolkata"), ("jst", "Asia/Tokyo"), ("kst", "Asia/Seoul"),
  ("aest", "Australia/Sydney"), ("aedt", "Australia/Sydney"), ("nzst", "Pacific/Auckland"),
  ("nzdt", "Pacific/Auckland")]

/-- Whether a text, in any case, is the abbreviation of a period. -/
def isAbbreviation (t : Text) : Bool := (abbreviations.lookup (String.ofList (Text.lower t))).isSome

/-- The zone that a text names. -/
def ofText? (t : Text) : Option Zone :=
  let t := Text.trim t
  let key := String.ofList (Text.lower t)
  ofName? (((cities.lookup key).or (abbreviations.lookup key)).getD (String.ofList t))

end Zone

end Worksheet
