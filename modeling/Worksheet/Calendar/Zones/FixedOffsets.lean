import Worksheet.Calendar.ZoneEntry

/-!
# Zones: Fixed offsets

One entry for each zone of the time zone database, in the order of their names.
-/

namespace Worksheet.Zones

def fixedOffsets : List ZoneEntry := [
  ⟨"Etc/GMT", [⟨"GMT", 0⟩],
    [],
    .steady ⟨"GMT", 0⟩⟩,
  ⟨"Etc/GMT+1", [⟨"-01", (-3600)⟩],
    [],
    .steady ⟨"-01", (-3600)⟩⟩,
  ⟨"Etc/GMT+10", [⟨"-10", (-36000)⟩],
    [],
    .steady ⟨"-10", (-36000)⟩⟩,
  ⟨"Etc/GMT+11", [⟨"-11", (-39600)⟩],
    [],
    .steady ⟨"-11", (-39600)⟩⟩,
  ⟨"Etc/GMT+12", [⟨"-12", (-43200)⟩],
    [],
    .steady ⟨"-12", (-43200)⟩⟩,
  ⟨"Etc/GMT+2", [⟨"-02", (-7200)⟩],
    [],
    .steady ⟨"-02", (-7200)⟩⟩,
  ⟨"Etc/GMT+3", [⟨"-03", (-10800)⟩],
    [],
    .steady ⟨"-03", (-10800)⟩⟩,
  ⟨"Etc/GMT+4", [⟨"-04", (-14400)⟩],
    [],
    .steady ⟨"-04", (-14400)⟩⟩,
  ⟨"Etc/GMT+5", [⟨"-05", (-18000)⟩],
    [],
    .steady ⟨"-05", (-18000)⟩⟩,
  ⟨"Etc/GMT+6", [⟨"-06", (-21600)⟩],
    [],
    .steady ⟨"-06", (-21600)⟩⟩,
  ⟨"Etc/GMT+7", [⟨"-07", (-25200)⟩],
    [],
    .steady ⟨"-07", (-25200)⟩⟩,
  ⟨"Etc/GMT+8", [⟨"-08", (-28800)⟩],
    [],
    .steady ⟨"-08", (-28800)⟩⟩,
  ⟨"Etc/GMT+9", [⟨"-09", (-32400)⟩],
    [],
    .steady ⟨"-09", (-32400)⟩⟩,
  ⟨"Etc/GMT-1", [⟨"+01", 3600⟩],
    [],
    .steady ⟨"+01", 3600⟩⟩,
  ⟨"Etc/GMT-10", [⟨"+10", 36000⟩],
    [],
    .steady ⟨"+10", 36000⟩⟩,
  ⟨"Etc/GMT-11", [⟨"+11", 39600⟩],
    [],
    .steady ⟨"+11", 39600⟩⟩,
  ⟨"Etc/GMT-12", [⟨"+12", 43200⟩],
    [],
    .steady ⟨"+12", 43200⟩⟩,
  ⟨"Etc/GMT-13", [⟨"+13", 46800⟩],
    [],
    .steady ⟨"+13", 46800⟩⟩,
  ⟨"Etc/GMT-14", [⟨"+14", 50400⟩],
    [],
    .steady ⟨"+14", 50400⟩⟩,
  ⟨"Etc/GMT-2", [⟨"+02", 7200⟩],
    [],
    .steady ⟨"+02", 7200⟩⟩,
  ⟨"Etc/GMT-3", [⟨"+03", 10800⟩],
    [],
    .steady ⟨"+03", 10800⟩⟩,
  ⟨"Etc/GMT-4", [⟨"+04", 14400⟩],
    [],
    .steady ⟨"+04", 14400⟩⟩,
  ⟨"Etc/GMT-5", [⟨"+05", 18000⟩],
    [],
    .steady ⟨"+05", 18000⟩⟩,
  ⟨"Etc/GMT-6", [⟨"+06", 21600⟩],
    [],
    .steady ⟨"+06", 21600⟩⟩,
  ⟨"Etc/GMT-7", [⟨"+07", 25200⟩],
    [],
    .steady ⟨"+07", 25200⟩⟩,
  ⟨"Etc/GMT-8", [⟨"+08", 28800⟩],
    [],
    .steady ⟨"+08", 28800⟩⟩,
  ⟨"Etc/GMT-9", [⟨"+09", 32400⟩],
    [],
    .steady ⟨"+09", 32400⟩⟩,
  ⟨"Etc/UTC", [⟨"UTC", 0⟩],
    [],
    .steady ⟨"UTC", 0⟩⟩,
  ⟨"Factory", [⟨"-00", 0⟩],
    [],
    .steady ⟨"-00", 0⟩⟩]

end Worksheet.Zones
