import Worksheet.Measure.Catalog.Constants

/-!
# Catalog: customary units

Each entry holds a unit's name, its other names, and what it is made of. A scale with a point or a
power of ten is a double, any other is exact. Only names in lower case are looked up.
-/

namespace Worksheet.Measure.Catalog

/-! ## Lengths, areas and volumes -/

def yard : Unit := made "yard" ["yd", "international_yard"] 0.9144 [(meter, 1)]
def inch : Unit := made "inch" ["in", "international_inch", "inches", "international_inches"]
  (.real (1 / 36)) [(yard, 1)]
def thou : Unit := made "thou" ["th", "mil_length"] 0.001 [(inch, 1)]
def hand : Unit := made "hand" [] 4 [(inch, 1)]
def foot : Unit := made "foot" ["ft", "international_foot", "feet", "international_feet"]
  (.real (1 / 3)) [(yard, 1)]
def mile : Unit := made "mile" ["mi", "international_mile"] 1760 [(yard, 1)]
def circularMil : Unit := made "circular_mil" ["cmil"] 0.25 [(pi, 1), (thou, 2)]
def squareInch : Unit := made "square_inch" ["sq_in", "square_inches"] 1 [(inch, 2)]
def squareFoot : Unit := made "square_foot" ["sq_ft", "square_feet"] 1 [(foot, 2)]
def squareYard : Unit := made "square_yard" ["sq_yd"] 1 [(yard, 2)]
def squareMile : Unit := made "square_mile" ["sq_mi"] 1 [(mile, 2)]
def cubicInch : Unit := made "cubic_inch" ["cu_in"] 1 [(inch, 3)]
def cubicFoot : Unit := made "cubic_foot" ["cu_ft", "cubic_feet"] 1 [(foot, 3)]
def cubicYard : Unit := made "cubic_yard" ["cu_yd"] 1 [(yard, 3)]
def surveyFoot : Unit := made "survey_foot" ["sft"] (.real (1200 / 3937)) [(meter, 1)]
def fathom : Unit := made "fathom" [] 6 [(surveyFoot, 1)]
def rod : Unit := made "rod" ["rd", "pole", "perch"] 16.5 [(surveyFoot, 1)]
def chain : Unit := made "chain" [] 4 [(rod, 1)]
def link : Unit := made "link" ["li", "survey_link"] 0.01 [(chain, 1)]
def furlong : Unit := made "furlong" ["fur"] 40 [(rod, 1)]
def cablesLength : Unit := made "cables_length" [] 120 [(fathom, 1)]
def surveyMile : Unit := made "survey_mile" ["smi", "us_statute_mile"] 5280 [(surveyFoot, 1)]
def league : Unit := made "league" [] 3 [(surveyMile, 1)]
def squareRod : Unit := made "square_rod" ["sq_rod", "sq_pole", "sq_perch"] 1 [(rod, 2)]
def acre : Unit := made "acre" [] 10 [(chain, 2)]
def squareSurveyMile : Unit := made "square_survey_mile" ["section"] 1 [(surveyMile, 2)]
def squareLeague : Unit := made "square_league" [] 1 [(league, 2)]
def acreFoot : Unit := made "acre_foot" ["acre_feet"] 1 [(acre, 1), (surveyFoot, 1)]
def nauticalMile : Unit := made "nautical_mile" ["nmi"] 1852 [(meter, 1)]
def knot : Unit := made "knot" ["kt", "knot_international", "international_knot", "kn"]
  1.0 [(nauticalMile, 1), (hour, -1)]
def milePerHour : Unit := made "mile_per_hour" ["mph"] 1.0 [(mile, 1), (hour, -1)]
def footPerSecond : Unit := made "foot_per_second" ["fps"] 1.0 [(foot, 1), (second, -1)]

def lengths : List Unit := [
  yard, inch, thou, hand, foot, mile, circularMil, squareInch, squareFoot, squareYard,
  squareMile, cubicInch, cubicFoot, cubicYard, surveyFoot, fathom, rod, chain, link, furlong,
  cablesLength, surveyMile, league, squareRod, acre, squareSurveyMile, squareLeague, acreFoot,
  nauticalMile, knot, milePerHour, footPerSecond]

/-! ## Dry and liquid volumes -/

def bushel : Unit := made "bushel" ["bu"] 2150.42 [(cubicInch, 1)]
def dryPint : Unit := made "dry_pint" ["dpi"] 0.015625 [(bushel, 1)]
def dryQuart : Unit := made "dry_quart" ["dqt"] 0.03125 [(bushel, 1)]
def dryGallon : Unit := made "dry_gallon" ["dgal"] 0.125 [(bushel, 1)]
def peck : Unit := made "peck" ["pk"] 0.25 [(bushel, 1)]
def dryBarrel : Unit := made "dry_barrel" [] 7056 [(cubicInch, 1)]
def boardFoot : Unit := made "board_foot"
  ["board_feet", "super_foot", "superficial_foot", "super_feet", "superficial_feet"]
  1 [(foot, 2), (inch, 1)]
def gallon : Unit := made "gallon" ["gal", "liquid_gallon"] 231 [(cubicInch, 1)]
def quart : Unit := made "quart" ["qt", "liquid_quart"] 0.25 [(gallon, 1)]
def pint : Unit := made "pint" ["pt", "liquid_pint"] 0.5 [(quart, 1)]
def minim : Unit := made "minim" [] (.real (1 / 7680)) [(pint, 1)]
def fluidDram : Unit := made "fluid_dram" ["fldr", "fluidram"] 0.0078125 [(pint, 1)]
def fluidOunce : Unit := made "fluid_ounce" ["floz"] 0.0625 [(pint, 1)]
def gill : Unit := made "gill" ["gi", "liquid_gill"] 0.25 [(pint, 1)]
def fifth : Unit := made "fifth" [] 0.2 [(gallon, 1)]
def teaspoon : Unit := made "teaspoon" ["tsp"] (.real (1 / 6)) [(fluidOunce, 1)]
def tablespoon : Unit := made "tablespoon" ["tbsp"] 0.5 [(fluidOunce, 1)]
def shot : Unit := made "shot" ["jig"] 3 [(tablespoon, 1)]
def cup : Unit := made "cup" ["cp", "liquid_cup"] 0.5 [(pint, 1)]
def barrel : Unit := made "barrel" ["bbl"] 31.5 [(gallon, 1)]
def oilBarrel : Unit := made "oil_barrel" ["oil_bbl"] 42 [(gallon, 1)]
def beerBarrel : Unit := made "beer_barrel" ["beer_bbl"] 31 [(gallon, 1)]
def hogshead : Unit := made "hogshead" [] 63 [(gallon, 1)]
def imperialGallon : Unit := made "imperial_gallon" ["imperial_gal"] 4.54609 [(liter, 1)]
def imperialQuart : Unit := made "imperial_quart" ["imperial_qt"] 0.25 [(imperialGallon, 1)]
def imperialPint : Unit := made "imperial_pint" ["imperial_pt"] 0.125 [(imperialGallon, 1)]
def imperialCup : Unit := made "imperial_cup" ["imperial_cp"] 0.5 [(imperialPint, 1)]
def imperialGill : Unit := made "imperial_gill" ["imperial_gi"] 0.25 [(imperialPint, 1)]
def imperialFluidOunce : Unit := made "imperial_fluid_ounce" ["imperial_floz"]
  0.05 [(imperialPint, 1)]
def imperialFluidDrachm : Unit := made "imperial_fluid_drachm"
  ["imperial_fldr", "imperial_fluid_dram"] 0.125 [(imperialFluidOunce, 1)]
def imperialFluidScruple : Unit := made "imperial_fluid_scruple" []
  (.real (1 / 24)) [(imperialFluidOunce, 1)]
def imperialMinim : Unit := made "imperial_minim" [] (.real (1 / 480)) [(imperialFluidOunce, 1)]
def imperialPeck : Unit := made "imperial_peck" ["imperial_pk"] 2 [(imperialGallon, 1)]
def imperialBushel : Unit := made "imperial_bushel" ["imperial_bu"] 8 [(imperialGallon, 1)]
def imperialBarrel : Unit := made "imperial_barrel" ["imperial_bbl"] 36 [(imperialGallon, 1)]

def volumes : List Unit := [
  bushel, dryPint, dryQuart, dryGallon, peck, dryBarrel, boardFoot, gallon, quart, pint, minim,
  fluidDram, fluidOunce, gill, fifth, teaspoon, tablespoon, shot, cup, barrel, oilBarrel,
  beerBarrel, hogshead, imperialGallon, imperialQuart, imperialPint, imperialCup, imperialGill,
  imperialFluidOunce, imperialFluidDrachm, imperialFluidScruple, imperialMinim, imperialPeck,
  imperialBushel, imperialBarrel]

/-! ## Weights and forces -/

def grain : Unit := made "grain" ["gr"] 64.79891 [(milligram, 1)]
def pound : Unit := made "pound" ["lb", "avoirdupois_pound", "avdp_pound"] 7e3 [(grain, 1)]
def ounce : Unit := made "ounce" ["oz", "avoirdupois_ounce", "avdp_ounce"] 0.0625 [(pound, 1)]
def dram : Unit := made "dram" ["dr", "avoirdupois_dram", "avdp_dram"] 0.00390625 [(pound, 1)]
def stone : Unit := made "stone" [] 14 [(pound, 1)]
def quarter : Unit := made "quarter" [] 28 [(pound, 1)]
def bag : Unit := made "bag" [] 94 [(pound, 1)]
def hundredweight : Unit := made "hundredweight" ["cwt", "short_hundredweight"] 100 [(pound, 1)]
def longHundredweight : Unit := made "long_hundredweight" [] 112 [(pound, 1)]
def ton : Unit := made "ton" ["short_ton"] 2e3 [(pound, 1)]
def longTon : Unit := made "long_ton" [] 2240 [(pound, 1)]
def slug : Unit := made "slug" [] 1.0 [(standardGravity, 1), (pound, 1), (second, 2), (foot, -1)]
def slinch : Unit := made "slinch" ["blob", "slugette"]
  1.0 [(standardGravity, 1), (pound, 1), (second, 2), (inch, -1)]
def forceGram : Unit := made "force_gram" ["gf", "gram_force", "pond"]
  1 [(standardGravity, 1), (gram, 1)]
def forceKilogram : Unit := made "force_kilogram" ["kgf", "kilogram_force"]
  1 [(standardGravity, 1), (kilogram, 1)]
def forceMetricTon : Unit := made "force_metric_ton"
  ["tf", "metric_ton_force", "force_t", "t_force"] 1 [(standardGravity, 1), (metricTon, 1)]
def forceOunce : Unit := made "force_ounce" ["ozf", "ounce_force"]
  1 [(standardGravity, 1), (ounce, 1)]
def forcePound : Unit := made "force_pound" ["lbf", "pound_force"]
  1 [(standardGravity, 1), (pound, 1)]
def forceTon : Unit := made "force_ton" ["ton_force", "force_short_ton", "short_ton_force"]
  1 [(standardGravity, 1), (ton, 1)]
def forceLongTon : Unit := made "force_long_ton" ["long_ton_force"]
  1 [(standardGravity, 1), (longTon, 1)]
def kip : Unit := made "kip" [] 1e3 [(forcePound, 1)]
def poundal : Unit := made "poundal" ["pdl"] 1.0 [(pound, 1), (foot, 1), (second, -2)]
def pennyweight : Unit := made "pennyweight" ["dwt"] 24 [(grain, 1)]
def troyOunce : Unit := made "troy_ounce" ["toz", "ozt"] 480 [(grain, 1)]
def troyPound : Unit := made "troy_pound" ["tlb", "lbt"] 12 [(troyOunce, 1)]
def scruple : Unit := made "scruple" [] 20 [(grain, 1)]
def apothecaryDram : Unit := made "apothecary_dram" ["ap_dr", "drachm", "apothecary_drachm"]
  3 [(scruple, 1)]
def apothecaryOunce : Unit := made "apothecary_ounce" ["ap_oz"] 8 [(apothecaryDram, 1)]
def apothecaryPound : Unit := made "apothecary_pound" ["ap_lb"] 12 [(apothecaryOunce, 1)]

def weights : List Unit := [
  grain, pound, ounce, dram, stone, quarter, bag, hundredweight, longHundredweight, ton, longTon,
  slug, slinch, forceGram, forceKilogram, forceMetricTon, forceOunce, forcePound, forceTon,
  forceLongTon, kip, poundal, pennyweight, troyOunce, troyPound, scruple, apothecaryDram,
  apothecaryOunce, apothecaryPound]

/-! ## Powers, energies and pressures that rest on customary units -/

def horsepower : Unit := made "horsepower" ["hp", "hydraulic_horsepower"]
  550.0 [(foot, 1), (forcePound, 1), (second, -1)]
def metricHorsepower : Unit := made "metric_horsepower" []
  75.0 [(forceKilogram, 1), (meter, 1), (second, -1)]
def internationalBritishThermalUnit : Unit := made "international_british_thermal_unit" []
  1e3 [(pound, 1), (kilogram, -1), (degreeRankine, 1), (kelvin, -1), (internationalCalorie, 1)]
def thermochemicalBritishThermalUnit : Unit := made "thermochemical_british_thermal_unit" []
  1e3 [(pound, 1), (kilogram, -1), (degreeRankine, 1), (kelvin, -1), (calorie, 1)]
def atmosphereLiter : Unit := made "atmosphere_liter" ["atm_l"]
  1 [(standardAtmosphere, 1), (liter, 1)]
def standardLiterPerMinute : Unit := made "standard_liter_per_minute" ["slpm", "slm"]
  1.0 [(standardAtmosphere, 1), (liter, 1), (minute, -1)]
def technicalAtmosphere : Unit := made "technical_atmosphere" ["at"]
  1.0 [(kilogram, 1), (standardGravity, 1), (centimeter, -2)]
def torr : Unit := made "torr" [] (.real (1 / 760)) [(standardAtmosphere, 1)]
def poundForcePerSquareInch : Unit := made "pound_force_per_square_inch" ["psi"]
  1.0 [(forcePound, 1), (inch, -2)]
def kipPerSquareInch : Unit := made "kip_per_square_inch" ["ksi"] 1.0 [(kip, 1), (inch, -2)]
def footPound : Unit := made "foot_pound" ["ft_lb", "footpound"] 1 [(foot, 1), (forcePound, 1)]
def reyn : Unit := made "reyn" [] 1 [(poundForcePerSquareInch, 1), (second, 1)]
def darcy : Unit := made "darcy" []
  1.0 [(centipoise, 1), (centimeter, 2), (second, -1), (standardAtmosphere, -1)]

def engineering : List Unit := [
  horsepower, metricHorsepower, internationalBritishThermalUnit,
  thermochemicalBritishThermalUnit, atmosphereLiter, standardLiterPerMinute, technicalAtmosphere,
  torr, poundForcePerSquareInch, kipPerSquareInch, footPound, reyn, darcy]

/-! ## Printing and textiles -/

def pica : Unit := made "pica" ["printers_pica"] (.real (1 / 6)) [(inch, 1)]
def point : Unit := made "point" ["pp", "printers_point", "big_point", "bp"]
  (.real (1 / 12)) [(pica, 1)]
def didot : Unit := made "didot" [] (.real (1 / 2660)) [(meter, 1)]
def cicero : Unit := made "cicero" [] 12 [(didot, 1)]
def texPoint : Unit := made "tex_point" [] (.real (1 / 72.27)) [(inch, 1)]
def texPica : Unit := made "tex_pica" [] 12 [(texPoint, 1)]
def texDidot : Unit := made "tex_didot" [] (.real (1238 / 1157)) [(texPoint, 1)]
def texCicero : Unit := made "tex_cicero" [] 12 [(texDidot, 1)]
def scaledPoint : Unit := made "scaled_point" [] (.real (1 / 65536)) [(texPoint, 1)]
def cssPixel : Unit := made "css_pixel" ["px"] (.real (1 / 96)) [(inch, 1)]
def pixelsPerCentimeter : Unit := made "pixels_per_centimeter" [] 1.0 [(pixel, 1), (centimeter, -1)]
def pixelsPerInch : Unit := made "pixels_per_inch" ["dots_per_inch", "ppi", "printers_dpi"]
  1.0 [(pixel, 1), (inch, -1)]
def bitsPerPixel : Unit := made "bits_per_pixel" ["bpp"] 1.0 [(bit, 1), (pixel, -1)]
def tex : Unit := made "tex" [] 1.0 [(gram, 1), (kilometer, -1)]
def decitex : Unit := UnitPrefix.deci.apply tex
def dtex : Unit := made "dtex" [] 1 [(decitex, 1)]
def denier : Unit := made "denier" ["den"] (.real (1 / 9)) [(gram, 1), (kilometer, -1)]
def jute : Unit := made "jute" [] (.real (1 / 14400)) [(pound, 1), (yard, -1)]
def aberdeen : Unit := made "aberdeen" [] 1 [(jute, 1)]
def numberEnglish : Unit := made "number_english" [] 840.0 [(yard, 1), (pound, -1)]
def numberMeter : Unit := made "number_meter" [] 1.0 [(kilometer, 1), (kilogram, -1)]

def printing : List Unit := [
  pica, point, didot, cicero, texPoint, texPica, texDidot, texCicero, scaledPoint, cssPixel,
  pixelsPerCentimeter, pixelsPerInch, bitsPerPixel, tex, decitex, dtex, denier, jute, aberdeen,
  numberEnglish, numberMeter]

end Worksheet.Measure.Catalog
