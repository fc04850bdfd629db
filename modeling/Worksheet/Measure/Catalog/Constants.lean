import Worksheet.Measure.Catalog.Metric

/-!
# Catalog: numbers and constants of nature

Each entry holds a unit's name, its other names, and what it is made of. A scale with a point or a
power of ten is a double, any other is exact. Only names in lower case are looked up.
-/

namespace Worksheet.Measure.Catalog

/-! ## Numbers, usable as units -/

def pi : Unit := made "pi" ["π"] 3.141592653589793 []
def tansec : Unit := made "tansec" [] 4.848136811133344e-6 []
def ln10 : Unit := made "ln10" [] 2.302585092994046 []
def wienX : Unit := made "wien_x" [] 4.965114231744276 []
def wienU : Unit := made "wien_u" [] 2.8214393721220787 []
def eulersNumber : Unit := made "eulers_number" [] 2.718281828459045 []
def avogadroNumber : Unit := made "avogadro_number" [] 6.02214076e23 []
def electronGFactor : Unit := made "electron_g_factor" ["g_e"] (-2.00231930436092) []
def kAlphaCuD220 : Unit := made "K_alpha_Cu_d_220" [] 0.80232719 []
def kAlphaMoD220 : Unit := made "K_alpha_Mo_d_220" [] 0.36940604 []
def kAlphaWD220 : Unit := made "K_alpha_W_d_220" [] 0.108852175 []

def numbers : List Unit := [
  pi, tansec, ln10, wienX, wienU, eulersNumber, avogadroNumber, electronGFactor, kAlphaCuD220,
  kAlphaMoD220, kAlphaWD220]

/-! ## Constants of nature, usable as units -/

def speedOfLight : Unit := made "speed_of_light" ["c", "c_0"] 299792458.0 [(meter, 1), (second, -1)]
def planckConstant : Unit := made "planck_constant" ["ℎ"] 6.62607015e-34 [(joule, 1), (second, 1)]
def elementaryCharge : Unit := made "elementary_charge" ["e"] 1.602176634e-19 [(coulomb, 1)]
def boltzmannConstant : Unit := made "boltzmann_constant" ["k"]
  1.380649e-23 [(joule, 1), (kelvin, -1)]
def standardGravity : Unit := made "standard_gravity" ["g_0", "g0", "g_n", "gravity"]
  9.80665 [(meter, 1), (second, -2)]
def standardAtmosphere : Unit := made "standard_atmosphere" ["atm", "atmosphere"]
  101325.0 [(pascal, 1)]
def conventionalJosephsonConstant : Unit := made "conventional_josephson_constant" []
  4.835979e14 [(hertz, 1), (volt, -1)]
def conventionalVonKlitzingConstant : Unit := made "conventional_von_klitzing_constant" []
  25812.807 [(ohm, 1)]
def zeta : Unit := made "zeta" ["ζ"] 1.0 [(speedOfLight, 1), (centimeter, -1), (second, 1)]
def diracConstant : Unit := made "dirac_constant"
  ["ħ", "hbar", "atomic_unit_of_action", "a_u_action"] 0.5 [(planckConstant, 1), (pi, -1)]
def avogadroConstant : Unit := made "avogadro_constant" [] 1.0 [(avogadroNumber, 1), (mole, -1)]
def molarGasConstant : Unit := made "molar_gas_constant" []
  1 [(boltzmannConstant, 1), (avogadroConstant, 1)]
def faradayConstant : Unit := made "faraday_constant" []
  1 [(elementaryCharge, 1), (avogadroConstant, 1)]
def conductanceQuantum : Unit := made "conductance_quantum" []
  2.0 [(elementaryCharge, 2), (planckConstant, -1)]
def magneticFluxQuantum : Unit := made "magnetic_flux_quantum" []
  0.5 [(planckConstant, 1), (elementaryCharge, -1)]
def josephsonConstant : Unit := made "josephson_constant" []
  2.0 [(elementaryCharge, 1), (planckConstant, -1)]
def vonKlitzingConstant : Unit := made "von_klitzing_constant" []
  1.0 [(planckConstant, 1), (elementaryCharge, -2)]
def stefanBoltzmannConstant : Unit := made "stefan_boltzmann_constant" ["σ", "sigma"]
  (.real (2 / 15)) [(pi, 5), (boltzmannConstant, 4), (planckConstant, -3), (speedOfLight, -2)]
def firstRadiationConstant : Unit := made "first_radiation_constant" ["c_1"]
  2 [(pi, 1), (planckConstant, 1), (speedOfLight, 2)]
def secondRadiationConstant : Unit := made "second_radiation_constant" ["c_2"]
  1.0 [(planckConstant, 1), (speedOfLight, 1), (boltzmannConstant, -1)]
def wienWavelengthDisplacementLawConstant : Unit := made "wien_wavelength_displacement_law_constant"
  [] 1.0 [(planckConstant, 1), (speedOfLight, 1), (boltzmannConstant, -1), (wienX, -1)]
def wienFrequencyDisplacementLawConstant : Unit := made "wien_frequency_displacement_law_constant"
  [] 1.0 [(wienU, 1), (boltzmannConstant, 1), (planckConstant, -1)]
def newtonianConstantOfGravitation : Unit := made "newtonian_constant_of_gravitation"
  ["gravitational_constant"] 6.6743e-11 [(meter, 3), (kilogram, -1), (second, -2)]
def rydbergConstant : Unit := made "rydberg_constant" [] 10973731.568157 [(meter, -1)]
def atomicMassConstant : Unit := made "atomic_mass_constant" ["m_u"]
  1.66053906892e-27 [(kilogram, 1)]
def electronMass : Unit := made "electron_mass" ["m_e", "atomic_unit_of_mass", "a_u_mass"]
  9.1093837139e-31 [(kilogram, 1)]
def protonMass : Unit := made "proton_mass" ["m_p"] 1.67262192595e-27 [(kilogram, 1)]
def neutronMass : Unit := made "neutron_mass" ["m_n"] 1.67492750056e-27 [(kilogram, 1)]
def latticeSpacingOfSi : Unit := made "lattice_spacing_of_Si" ["d_220"] 1.920155716e-10 [(meter, 1)]
def fineStructureConstant : Unit := made "fine_structure_constant" ["α", "alpha"]
  1.4142135623730951 [(planckConstant, 0.5), (rydbergConstant, 0.5), (electronMass, -0.5),
    (speedOfLight, -0.5)]
def vacuumPermeability : Unit := made "vacuum_permeability"
  ["µ_0", "mu_0", "mu0", "magnetic_constant"]
  2.0 [(fineStructureConstant, 1), (planckConstant, 1), (elementaryCharge, -2), (speedOfLight, -1)]
def vacuumPermittivity : Unit := made "vacuum_permittivity"
  ["ε_0", "epsilon_0", "eps_0", "eps0", "electric_constant"]
  0.5 [(elementaryCharge, 2), (fineStructureConstant, -1), (planckConstant, -1), (speedOfLight, -1)]
def impedanceOfFreeSpace : Unit := made "impedance_of_free_space"
  ["characteristic_impedance_of_vacuum"]
  2.0 [(fineStructureConstant, 1), (planckConstant, 1), (elementaryCharge, -2)]
def coulombConstant : Unit := made "coulomb_constant" []
  1.0 [(fineStructureConstant, 1), (diracConstant, 1), (speedOfLight, 1), (elementaryCharge, -2)]
def classicalElectronRadius : Unit := made "classical_electron_radius" ["r_e"]
  1.0 [(fineStructureConstant, 1), (diracConstant, 1), (electronMass, -1), (speedOfLight, -1)]
def thomsonCrossSection : Unit := made "thomson_cross_section" ["σ_e", "sigma_e"]
  (.real (8 / 3)) [(pi, 1), (classicalElectronRadius, 2)]

def constants : List Unit := [
  speedOfLight, planckConstant, elementaryCharge, boltzmannConstant, standardGravity,
  standardAtmosphere, conventionalJosephsonConstant, conventionalVonKlitzingConstant, zeta,
  diracConstant, avogadroConstant, molarGasConstant, faradayConstant, conductanceQuantum,
  magneticFluxQuantum, josephsonConstant, vonKlitzingConstant, stefanBoltzmannConstant,
  firstRadiationConstant, secondRadiationConstant, wienWavelengthDisplacementLawConstant,
  wienFrequencyDisplacementLawConstant, newtonianConstantOfGravitation, rydbergConstant,
  atomicMassConstant, electronMass, protonMass, neutronMass, latticeSpacingOfSi,
  fineStructureConstant, vacuumPermeability, vacuumPermittivity, impedanceOfFreeSpace,
  coulombConstant, classicalElectronRadius, thomsonCrossSection]

end Worksheet.Measure.Catalog
