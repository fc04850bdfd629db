import Worksheet.Measure.Prefix

/-!
# Catalog: base units, times, ratios and data

Each entry holds a unit's name, its other names, and what it is made of. A scale with a point or a
power of ten is a double, any other is exact. Only names in lower case are looked up.
-/

namespace Worksheet.Measure.Catalog

/-- A unit whose readings are multiples of it. -/
def made (name : String) (aliases : List String) (scale : Mixed) (parts : Powers Unit) : Unit :=
  .derived name aliases scale parts .linear

/-! ## The units that others are made of -/

def meter : Unit := .base "meter" ["m", "metre"] (some .length)
def decimeter : Unit := UnitPrefix.deci.apply meter
def centimeter : Unit := UnitPrefix.centi.apply meter
def kilometer : Unit := UnitPrefix.kilo.apply meter
def micrometer : Unit := UnitPrefix.micro.apply meter
def femtometer : Unit := UnitPrefix.femto.apply meter
def second : Unit := .base "second" ["s", "sec"] (some .time)
def ampere : Unit := .base "ampere" ["amp"] (some .current)
def candela : Unit := .base "candela" ["cd", "candle"] (some .luminosity)
def gram : Unit := .base "gram" ["g"] (some .mass)
def kilogram : Unit := UnitPrefix.kilo.apply gram
def milligram : Unit := UnitPrefix.milli.apply gram
def microgram : Unit := UnitPrefix.micro.apply gram
def mole : Unit := .base "mole" ["mol"] (some .substance)
def micromole : Unit := UnitPrefix.micro.apply mole
def kelvin : Unit := .base "kelvin" [] (some .temperature)
def pixel : Unit := .base "pixel" ["dot", "pel", "picture_element"] (some .printingUnit)
def radian : Unit := .base "radian" ["rad"] none
def bit : Unit := .base "bit" [] none
def count : Unit := .base "count" [] none
def refractiveIndexUnit : Unit := .base "refractive_index_unit" [] none
def strain : Unit := .base "strain" ["ϵ"] none
def absorbanceUnit : Unit := .base "absorbance_unit" [] none

def base : List Unit := [
  meter, decimeter, centimeter, kilometer, micrometer, femtometer, second, ampere, candela, gram,
  kilogram, milligram, microgram, mole, micromole, kelvin, pixel, radian, bit, count,
  refractiveIndexUnit, strain, absorbanceUnit]

/-! ## Times -/

def minute : Unit := made "minute" ["min"] 60 [(second, 1)]
def hour : Unit := made "hour" ["h", "hr"] 60 [(minute, 1)]
def day : Unit := made "day" ["d"] 24 [(hour, 1)]
def week : Unit := made "week" [] 7 [(day, 1)]
def fortnight : Unit := made "fortnight" [] 2 [(week, 1)]
def year : Unit := made "year" ["a", "yr", "julian_year"] 365.25 [(day, 1)]
def month : Unit := made "month" [] (.real (1 / 12)) [(year, 1)]
def century : Unit := made "century" ["centuries"] 100 [(year, 1)]
def millennium : Unit := made "millennium" ["millennia"] 1e3 [(year, 1)]
def eon : Unit := made "eon" [] 1e9 [(year, 1)]
def shake : Unit := made "shake" [] 1e-8 [(second, 1)]
def svedberg : Unit := made "svedberg" [] 1e-13 [(second, 1)]
def gregorianYear : Unit := made "gregorian_year" [] 365.2425 [(day, 1)]
def siderealYear : Unit := made "sidereal_year" [] 365.256363004 [(day, 1)]
def tropicalYear : Unit := made "tropical_year" [] 365.242190402 [(day, 1)]
def commonYear : Unit := made "common_year" [] 365 [(day, 1)]
def leapYear : Unit := made "leap_year" [] 366 [(day, 1)]
def siderealDay : Unit := made "sidereal_day" [] (.real (1 / 1.00273790935079524)) [(day, 1)]
def siderealMonth : Unit := made "sidereal_month" [] 27.32166155 [(day, 1)]
def tropicalMonth : Unit := made "tropical_month" [] 27.321582 [(day, 1)]
def synodicMonth : Unit := made "synodic_month" ["lunar_month"] 29.530589 [(day, 1)]

def times : List Unit := [
  minute, hour, day, week, fortnight, year, month, century, millennium, eon, shake, svedberg,
  gregorianYear, siderealYear, tropicalYear, commonYear, leapYear, siderealDay, siderealMonth,
  tropicalMonth, synodicMonth]

/-! ## Ratios and data -/

def percent : Unit := made "percent" [] 0.01 []
def permille : Unit := made "permille" [] 0.001 []
def ppm : Unit := made "ppm" [] 1e-6 []
def byte : Unit := made "byte" ["octet"] 8 [(bit, 1)]
def baud : Unit := made "baud" ["bps"] 1.0 [(bit, 1), (second, -1)]

def ratios : List Unit := [
  percent, permille, ppm, byte, baud]

end Worksheet.Measure.Catalog
