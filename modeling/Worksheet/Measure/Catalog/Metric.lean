import Worksheet.Measure.Catalog.Base

/-!
# Catalog: metric units

Each entry holds a unit's name, its other names, and what it is made of. A scale with a point or a
power of ten is a double, any other is exact. Only names in lower case are looked up.
-/

namespace Worksheet.Measure.Catalog

/-! ## Areas, volumes, rates, forces, energies and pressures -/

def are : Unit := made "are" [] 100 [(meter, 2)]
def barn : Unit := made "barn" ["b"] 1e-28 [(meter, 2)]
def hectare : Unit := made "hectare" ["ha"] 100 [(are, 1)]
def liter : Unit := made "liter" ["l", "ℓ", "litre"] 1 [(decimeter, 3)]
def microliter : Unit := UnitPrefix.micro.apply liter
def cubicCentimeter : Unit := made "cubic_centimeter" ["cc"] 1 [(centimeter, 3)]
def lambda : Unit := made "lambda" ["λ"] 1 [(microliter, 1)]
def stere : Unit := made "stere" [] 1 [(meter, 3)]
def hertz : Unit := made "hertz" [] 1.0 [(second, -1)]
def countsPerSecond : Unit := made "counts_per_second" ["cps"] 1.0 [(count, 1), (second, -1)]
def reciprocalCentimeter : Unit := made "reciprocal_centimeter" ["cm_1", "kayser"]
  1.0 [(centimeter, -1)]
def kilometerPerHour : Unit := made "kilometer_per_hour" ["kph"] 1.0 [(kilometer, 1), (hour, -1)]
def kilometerPerSecond : Unit := made "kilometer_per_second" ["kps"]
  1.0 [(kilometer, 1), (second, -1)]
def meterPerSecond : Unit := made "meter_per_second" ["mps"] 1.0 [(meter, 1), (second, -1)]
def sverdrup : Unit := made "sverdrup" ["sv"] 1e6 [(meter, 3), (second, -1)]
def galileo : Unit := made "galileo" [] 1.0 [(centimeter, 1), (second, -2)]
def newton : Unit := made "newton" [] 1.0 [(kilogram, 1), (meter, 1), (second, -2)]
def dyne : Unit := made "dyne" ["dyn"] 1.0 [(gram, 1), (centimeter, 1), (second, -2)]
def joule : Unit := made "joule" [] 1 [(newton, 1), (meter, 1)]
def erg : Unit := made "erg" [] 1 [(dyne, 1), (centimeter, 1)]
def watt : Unit := made "watt" [] 1.0 [(joule, 1), (second, -1)]
def wattHour : Unit := made "watt_hour" ["watthour"] 1 [(watt, 1), (hour, 1)]
def electricalHorsepower : Unit := made "electrical_horsepower" [] 746 [(watt, 1)]
def pascal : Unit := made "pascal" [] 1.0 [(newton, 1), (meter, -2)]
def barye : Unit := made "barye" ["barie", "barad", "barrie", "baryd"]
  1.0 [(dyne, 1), (centimeter, -2)]
def bar : Unit := made "bar" [] 1e5 [(pascal, 1)]
def soundPressureLevel : Unit := made "sound_pressure_level" [] 2e-5 [(pascal, 1)]
def poise : Unit := made "poise" [] 0.1 [(pascal, 1), (second, 1)]
def centipoise : Unit := UnitPrefix.centi.apply poise
def stokes : Unit := made "stokes" [] 0.0001 [(meter, 2), (second, -1)]
def rhe : Unit := made "rhe" [] 1.0 [(poise, -1)]
def conventionalMercuryDensity : Unit := made "conventional_mercury_density"
  ["mercury", "conventional_mercury"] 13.5951 [(kilogram, 1), (liter, -1)]
def conventionalWaterDensity : Unit := made "conventional_water_density"
  ["water", "conventional_water"] 1.0 [(kilogram, 1), (liter, -1)]
def metricTon : Unit := made "metric_ton" ["t", "tonne"] 1e3 [(kilogram, 1)]
def carat : Unit := made "carat" ["ct", "karat"] 200 [(milligram, 1)]
def gammaMass : Unit := made "gamma_mass" [] 1 [(microgram, 1)]
def calorie : Unit := made "calorie" ["cal", "thermochemical_calorie", "cal_th"] 4.184 [(joule, 1)]
def internationalCalorie : Unit := made "international_calorie"
  ["cal_it", "international_steam_table_calorie"] 4.1868 [(joule, 1)]
def fifteenDegreeCalorie : Unit := made "fifteen_degree_calorie" ["cal_15"] 4.1855 [(joule, 1)]
def britishThermalUnit : Unit := made "british_thermal_unit" [] 1055.056 [(joule, 1)]
def quadrillionBtu : Unit := made "quadrillion_Btu" ["quad"] 1e15 [(britishThermalUnit, 1)]
def therm : Unit := made "therm" ["thm"] 1e5 [(britishThermalUnit, 1)]
def tonneOfOilEquivalent : Unit := made "tonne_of_oil_equivalent" ["toe"]
  1e10 [(internationalCalorie, 1)]
def boilerHorsepower : Unit := made "boiler_horsepower" []
  33475.0 [(britishThermalUnit, 1), (hour, -1)]
def refrigerationTon : Unit := made "refrigeration_ton" ["ton_of_refrigeration"]
  1.2e4 [(britishThermalUnit, 1), (hour, -1)]
def coolingTowerTon : Unit := made "cooling_tower_ton" [] 1.25 [(refrigerationTon, 1)]

def mechanics : List Unit := [
  are, barn, hectare, liter, microliter, cubicCentimeter, lambda, stere, hertz, countsPerSecond,
  reciprocalCentimeter, kilometerPerHour, kilometerPerSecond, meterPerSecond, sverdrup, galileo,
  newton, dyne, joule, erg, watt, wattHour, electricalHorsepower, pascal, barye, bar,
  soundPressureLevel, poise, centipoise, stokes, rhe, conventionalMercuryDensity,
  conventionalWaterDensity, metricTon, carat, gammaMass, calorie, internationalCalorie,
  fifteenDegreeCalorie, britishThermalUnit, quadrillionBtu, therm, tonneOfOilEquivalent,
  boilerHorsepower, refrigerationTon, coolingTowerTon]

/-! ## Temperature scales -/

def degreeCelsius : Unit := .derived "degree_Celsius" ["celsius", "degC"]
  1 [(kelvin, 1)] (.offset 273.15)
def degreeRankine : Unit := made "degree_Rankine" ["rankine"] (.real (5 / 9)) [(kelvin, 1)]
def degreeFahrenheit : Unit := .derived "degree_Fahrenheit" ["fahrenheit", "degF"]
  (.real (5 / 9)) [(kelvin, 1)] (.offset 255.37222222222223)
def degreeReaumur : Unit := .derived "degree_Reaumur" ["reaumur", "réaumur"]
  1.25 [(kelvin, 1)] (.offset 273.15)

def temperatures : List Unit := [
  degreeCelsius, degreeRankine, degreeFahrenheit, degreeReaumur, degreeCelsius.difference,
  degreeFahrenheit.difference, degreeReaumur.difference]

/-! ## Levels -/

def decibelwatt : Unit := .derived "decibelwatt" [] 1 [(watt, 1)] (.level 10 10)
def decibelmilliwatt : Unit := .derived "decibelmilliwatt" [] 0.001 [(watt, 1)] (.level 10 10)
def decibelmicrowatt : Unit := .derived "decibelmicrowatt" [] 1e-6 [(watt, 1)] (.level 10 10)
def decibel : Unit := .derived "decibel" [] 1 [] (.level 10 10)
def decade : Unit := .derived "decade" [] 1 [] (.level 10 1)
def octave : Unit := .derived "octave" ["oct"] 1 [] (.level 2 1)
def neper : Unit := .derived "neper" [] 1 [] (.level 2.718281828459045 0.5)

def levels : List Unit := [
  decibelwatt, decibelmilliwatt, decibelmicrowatt, decibel, decade, octave, neper]

/-! ## Electric and magnetic units, radiation, light and substances -/

def coulomb : Unit := made "coulomb" [] 1 [(ampere, 1), (second, 1)]
def volt : Unit := made "volt" [] 1.0 [(joule, 1), (coulomb, -1)]
def ohm : Unit := made "ohm" [] 1.0 [(volt, 1), (ampere, -1)]
def voltAmpere : Unit := made "volt_ampere" [] 1 [(volt, 1), (ampere, 1)]
def biot : Unit := made "biot" [] 10 [(ampere, 1)]
def abampere : Unit := made "abampere" [] 1 [(biot, 1)]
def abcoulomb : Unit := made "abcoulomb" [] 10 [(coulomb, 1)]
def ampereHour : Unit := made "ampere_hour" [] 1 [(ampere, 1), (hour, 1)]
def abvolt : Unit := made "abvolt" [] 1e-8 [(volt, 1)]
def meanInternationalVolt : Unit := made "mean_international_volt" [] 1.00034 [(volt, 1)]
def meanInternationalOhm : Unit := made "mean_international_ohm" ["ohm_it"] 1.00049 [(ohm, 1)]
def meanInternationalAmpere : Unit := made "mean_international_ampere" []
  1.0 [(meanInternationalVolt, 1), (meanInternationalOhm, -1)]
def townsend : Unit := made "townsend" [] 1e-21 [(volt, 1), (meter, 2)]
def abohm : Unit := made "abohm" [] 1e-9 [(ohm, 1)]
def siemens : Unit := made "siemens" ["mho"] 1.0 [(ampere, 1), (volt, -1)]
def absiemens : Unit := made "absiemens" ["abmho"] 1e9 [(siemens, 1)]
def farad : Unit := made "farad" [] 1.0 [(coulomb, 1), (volt, -1)]
def abfarad : Unit := made "abfarad" [] 1e9 [(farad, 1)]
def weber : Unit := made "weber" [] 1 [(volt, 1), (second, 1)]
def henry : Unit := made "henry" [] 1.0 [(weber, 1), (ampere, -1)]
def abhenry : Unit := made "abhenry" [] 1e-9 [(henry, 1)]
def tesla : Unit := made "tesla" [] 1.0 [(weber, 1), (meter, -2)]
def gamma : Unit := made "gamma" ["γ"] 1e-9 [(tesla, 1)]
def ampereTurn : Unit := made "ampere_turn" [] 1 [(ampere, 1)]
def biotTurn : Unit := made "biot_turn" [] 1 [(biot, 1)]
def franklin : Unit := made "franklin" ["statcoulomb", "esu"] 1.0 [(erg, 0.5), (centimeter, 0.5)]
def statvolt : Unit := made "statvolt" [] 1.0 [(erg, 1), (franklin, -1)]
def statampere : Unit := made "statampere" [] 1.0 [(franklin, 1), (second, -1)]
def gauss : Unit := made "gauss" [] 1.0 [(dyne, 1), (franklin, -1)]
def maxwell : Unit := made "maxwell" [] 1 [(gauss, 1), (centimeter, 2)]
def oersted : Unit := made "oersted" ["ørsted"] 1.0 [(dyne, 1), (maxwell, -1)]
def statohm : Unit := made "statohm" [] 1.0 [(statvolt, 1), (statampere, -1)]
def statfarad : Unit := made "statfarad" [] 1.0 [(franklin, 1), (statvolt, -1)]
def statmho : Unit := made "statmho" [] 1.0 [(statampere, 1), (statvolt, -1)]
def statweber : Unit := made "statweber" [] 1 [(statvolt, 1), (second, 1)]
def stattesla : Unit := made "stattesla" [] 1.0 [(statweber, 1), (centimeter, -2)]
def stathenry : Unit := made "stathenry" [] 1.0 [(statweber, 1), (statampere, -1)]
def molar : Unit := made "molar" [] 1.0 [(mole, 1), (liter, -1)]
def katal : Unit := made "katal" ["kat"] 1.0 [(mole, 1), (second, -1)]
def enzymeUnit : Unit := made "enzyme_unit" ["enzymeunit"] 1.0 [(micromole, 1), (minute, -1)]
def clausius : Unit := made "clausius" [] 1.0 [(calorie, 1), (kelvin, -1)]
def entropyUnit : Unit := made "entropy_unit" ["eu"] 1.0 [(calorie, 1), (kelvin, -1), (mole, -1)]
def becquerel : Unit := made "becquerel" [] 1 [(countsPerSecond, 1)]
def curie : Unit := made "curie" [] 3.7e10 [(becquerel, 1)]
def rutherford : Unit := made "rutherford" [] 1e6 [(becquerel, 1)]
def gray : Unit := made "gray" [] 1.0 [(joule, 1), (kilogram, -1)]
def sievert : Unit := made "sievert" [] 1.0 [(joule, 1), (kilogram, -1)]
def rads : Unit := made "rads" [] 0.01 [(gray, 1)]
def rem : Unit := made "rem" [] 0.01 [(sievert, 1)]
def roentgen : Unit := made "roentgen" ["röntgen"] 0.000258 [(coulomb, 1), (kilogram, -1)]
def peakSunHour : Unit := made "peak_sun_hour" [] 1e3 [(wattHour, 1), (meter, -2)]
def langley : Unit := made "langley" [] 1.0 [(calorie, 1), (centimeter, -2)]
def nit : Unit := made "nit" [] 1.0 [(candela, 1), (meter, -2)]
def stilb : Unit := made "stilb" [] 1.0 [(candela, 1), (centimeter, -2)]

def electricity : List Unit := [
  coulomb, volt, ohm, voltAmpere, biot, abampere, abcoulomb, ampereHour, abvolt,
  meanInternationalVolt, meanInternationalOhm, meanInternationalAmpere, townsend, abohm, siemens,
  absiemens, farad, abfarad, weber, henry, abhenry, tesla, gamma, ampereTurn, biotTurn, franklin,
  statvolt, statampere, gauss, maxwell, oersted, statohm, statfarad, statmho, statweber,
  stattesla, stathenry, molar, katal, enzymeUnit, clausius, entropyUnit, becquerel, curie,
  rutherford, gray, sievert, rads, rem, roentgen, peakSunHour, langley, nit, stilb]

end Worksheet.Measure.Catalog
