import Worksheet.Measure.Catalog.Constants

/-!
# Catalog: angles and units that rest on constants of nature

Each entry holds a unit's name, its other names, and what it is made of. A scale with a point or a
power of ten is a double, any other is exact. Only names in lower case are looked up.
-/

namespace Worksheet.Measure.Catalog

/-! ## Angles -/

def turn : Unit := made "turn" ["revolution", "cycle", "circle"] 2 [(pi, 1), (radian, 1)]
def degree : Unit := made "degree" ["deg", "arcdeg", "arcdegree", "angular_degree"]
  (.real (1 / 180)) [(pi, 1), (radian, 1)]
def arcminute : Unit := made "arcminute" ["arcmin", "arc_minute", "angular_minute"]
  (.real (1 / 60)) [(degree, 1)]
def arcsecond : Unit := made "arcsecond" ["arcsec", "arc_second", "angular_second"]
  (.real (1 / 60)) [(arcminute, 1)]
def milliarcsecond : Unit := made "milliarcsecond" ["mas"] 0.001 [(arcsecond, 1)]
def grade : Unit := made "grade" ["grad", "gon", "gradian"] 0.005 [(pi, 1), (radian, 1)]
def mil : Unit := made "mil" [] 3.125e-5 [(pi, 1), (radian, 1)]
def steradian : Unit := made "steradian" ["sr"] 1 [(radian, 2)]
def squareDegree : Unit := made "square_degree" ["sq_deg", "sqdeg"]
  3.08641975308642e-5 [(pi, 2), (steradian, 1)]
def revolutionsPerMinute : Unit := made "revolutions_per_minute" ["rpm"]
  1.0 [(turn, 1), (minute, -1)]
def revolutionsPerSecond : Unit := made "revolutions_per_second" ["rps"]
  1.0 [(turn, 1), (second, -1)]
def lumen : Unit := made "lumen" ["lm"] 1 [(candela, 1), (steradian, 1)]
def lux : Unit := made "lux" ["lx"] 1.0 [(lumen, 1), (meter, -2)]
def lambert : Unit := made "lambert" [] 1.0 [(pi, -1), (candela, 1), (centimeter, -2)]

def angles : List Unit := [
  turn, degree, arcminute, arcsecond, milliarcsecond, grade, mil, steradian, squareDegree,
  revolutionsPerMinute, revolutionsPerSecond, lumen, lux, lambert]

/-! ## The very small and the very large -/

def angstrom : Unit := made "angstrom" ["ångström"] 1e-10 [(meter, 1)]
def micron : Unit := made "micron" ["µ", "μ"] 1 [(micrometer, 1)]
def fermi : Unit := made "fermi" ["fm"] 1 [(femtometer, 1)]
def lightYear : Unit := made "light_year" ["ly", "lightyear"] 1 [(speedOfLight, 1), (year, 1)]
def astronomicalUnit : Unit := made "astronomical_unit" ["au"] 149597870700 [(meter, 1)]
def parsec : Unit := made "parsec" ["pc"] 1.0 [(tansec, -1), (astronomicalUnit, 1)]
def bohr : Unit := made "bohr" ["a_0", "a0", "bohr_radius", "atomic_unit_of_length", "a_u_length"]
  1.0 [(diracConstant, 1), (fineStructureConstant, -1), (electronMass, -1), (speedOfLight, -1)]
def angstromStar : Unit := made "angstrom_star" []
  (.real (1 / 0.20901)) [(kAlphaWD220, 1), (latticeSpacingOfSi, 1)]
def planckLength : Unit := made "planck_length" []
  1.0 [(diracConstant, 0.5), (newtonianConstantOfGravitation, 0.5), (speedOfLight, -1.5)]
def unifiedAtomicMassUnit : Unit := made "unified_atomic_mass_unit" ["u", "amu"]
  1 [(atomicMassConstant, 1)]
def dalton : Unit := made "dalton" [] 1 [(atomicMassConstant, 1)]
def planckMass : Unit := made "planck_mass" []
  1.0 [(diracConstant, 0.5), (speedOfLight, 0.5), (newtonianConstantOfGravitation, -0.5)]
def planckTime : Unit := made "planck_time" []
  1.0 [(diracConstant, 0.5), (newtonianConstantOfGravitation, 0.5), (speedOfLight, -2.5)]
def planckTemperature : Unit := made "planck_temperature" []
  1.0 [(diracConstant, 0.5), (speedOfLight, 2.5), (newtonianConstantOfGravitation, -0.5),
    (boltzmannConstant, -1.0)]
def planckCurrent : Unit := made "planck_current" []
  1.0 [(speedOfLight, 3.0), (newtonianConstantOfGravitation, -0.5), (coulombConstant, -0.5)]
def electronVolt : Unit := made "electron_volt" [] 1 [(elementaryCharge, 1), (volt, 1)]
def rydberg : Unit := made "rydberg" []
  1 [(planckConstant, 1), (speedOfLight, 1), (rydbergConstant, 1)]
def hartree : Unit := made "hartree" ["hartree_energy", "atomic_unit_of_energy", "a_u_energy"]
  2 [(rydberg, 1)]
def particle : Unit := made "particle" ["molec", "molecule"] 1.0 [(avogadroConstant, -1)]
def faraday : Unit := made "faraday" [] 1 [(elementaryCharge, 1), (avogadroConstant, 1), (mole, 1)]

def extremes : List Unit := [
  angstrom, micron, fermi, lightYear, astronomicalUnit, parsec, bohr, angstromStar, planckLength,
  unifiedAtomicMassUnit, dalton, planckMass, planckTime, planckTemperature, planckCurrent,
  electronVolt, rydberg, hartree, particle, faraday]

/-! ## Atomic units -/

def atomicUnitOfTime : Unit := made "atomic_unit_of_time" ["a_u_time"]
  1.0 [(diracConstant, 1), (hartree, -1)]
def atomicUnitOfTemperature : Unit := made "atomic_unit_of_temperature" ["a_u_temp"]
  1.0 [(hartree, 1), (boltzmannConstant, -1)]
def atomicUnitOfForce : Unit := made "atomic_unit_of_force" ["a_u_force"]
  1.0 [(hartree, 1), (bohr, -1)]
def atomicUnitOfCurrent : Unit := made "atomic_unit_of_current" ["a_u_current"]
  1.0 [(elementaryCharge, 1), (atomicUnitOfTime, -1)]
def atomicUnitOfElectricField : Unit := made "atomic_unit_of_electric_field" ["a_u_electric_field"]
  1.0 [(elementaryCharge, 1), (coulombConstant, 1), (bohr, -2)]
def atomicUnitOfElectricFieldGradient : Unit := made "atomic_unit_of_electric_field_gradient"
  ["a_u_efg"] 1.0 [(hartree, 1), (elementaryCharge, -1), (bohr, -2)]
def atomicUnitOfIntensity : Unit := made "atomic_unit_of_intensity" ["a_u_intensity"]
  0.5 [(vacuumPermittivity, 1), (speedOfLight, 1), (atomicUnitOfElectricField, 2)]

def atomic : List Unit := [
  atomicUnitOfTime, atomicUnitOfTemperature, atomicUnitOfForce, atomicUnitOfCurrent,
  atomicUnitOfElectricField, atomicUnitOfElectricFieldGradient, atomicUnitOfIntensity]

/-! ## Electric and magnetic units that rest on constants -/

def unitPole : Unit := made "unit_pole" [] 1 [(vacuumPermeability, 1), (biot, 1), (centimeter, 1)]
def conventionalWatt90 : Unit := made "conventional_watt_90" []
  1.0 [(conventionalJosephsonConstant, 2), (conventionalVonKlitzingConstant, 1),
    (josephsonConstant, -2), (vonKlitzingConstant, -1), (watt, 1)]
def conventionalAmpere90 : Unit := made "conventional_ampere_90" []
  1.0 [(conventionalJosephsonConstant, 1), (conventionalVonKlitzingConstant, 1),
    (josephsonConstant, -1), (vonKlitzingConstant, -1), (ampere, 1)]
def conventionalCoulomb90 : Unit := made "conventional_coulomb_90" []
  1.0 [(conventionalJosephsonConstant, 1), (conventionalVonKlitzingConstant, 1),
    (josephsonConstant, -1), (vonKlitzingConstant, -1), (coulomb, 1)]
def conventionalVolt90 : Unit := made "conventional_volt_90" []
  1.0 [(conventionalJosephsonConstant, 1), (josephsonConstant, -1), (volt, 1)]
def conventionalOhm90 : Unit := made "conventional_ohm_90" ["ohm_90"]
  1.0 [(vonKlitzingConstant, 1), (conventionalVonKlitzingConstant, -1), (ohm, 1)]
def conventionalFarad90 : Unit := made "conventional_farad_90" []
  1.0 [(conventionalVonKlitzingConstant, 1), (vonKlitzingConstant, -1), (farad, 1)]
def conventionalHenry90 : Unit := made "conventional_henry_90" []
  1.0 [(vonKlitzingConstant, 1), (conventionalVonKlitzingConstant, -1), (henry, 1)]
def gilbert : Unit := made "gilbert" [] 0.25 [(pi, -1), (biotTurn, 1)]
def debye : Unit := made "debye" [] 1e-9 [(zeta, -1), (coulomb, 1), (angstrom, 1)]
def buckingham : Unit := made "buckingham" [] 1 [(debye, 1), (angstrom, 1)]
def bohrMagneton : Unit := made "bohr_magneton" []
  0.5 [(elementaryCharge, 1), (diracConstant, 1), (electronMass, -1)]
def nuclearMagneton : Unit := made "nuclear_magneton" []
  0.5 [(elementaryCharge, 1), (diracConstant, 1), (protonMass, -1)]

def electromagnetism : List Unit := [
  unitPole, conventionalWatt90, conventionalAmpere90, conventionalCoulomb90, conventionalVolt90,
  conventionalOhm90, conventionalFarad90, conventionalHenry90, gilbert, debye, buckingham,
  bohrMagneton, nuclearMagneton]

end Worksheet.Measure.Catalog
