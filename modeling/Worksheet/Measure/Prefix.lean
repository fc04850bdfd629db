import Worksheet.Measure.Unit

/-!
# Prefixes

A prefix in front of a unit's name makes a unit that is so many times as large.
-/

namespace Worksheet

namespace Measure

/-- A factor that is written in front of a unit. -/
structure UnitPrefix where
  name : String
  aliases : List String
  scale : Mixed

namespace UnitPrefix

def quecto : UnitPrefix := ⟨"quecto", ["q"], 1e-30⟩
def ronto : UnitPrefix := ⟨"ronto", ["r"], 1e-27⟩
def yocto : UnitPrefix := ⟨"yocto", ["y"], 1e-24⟩
def zepto : UnitPrefix := ⟨"zepto", ["z"], 1e-21⟩
def atto : UnitPrefix := ⟨"atto", ["a"], 1e-18⟩
def femto : UnitPrefix := ⟨"femto", ["f"], 1e-15⟩
def pico : UnitPrefix := ⟨"pico", ["p"], 1e-12⟩
def nano : UnitPrefix := ⟨"nano", ["n"], 1e-9⟩
def micro : UnitPrefix := ⟨"micro", ["µ", "μ", "u", "mu", "mc"], 1e-6⟩
def milli : UnitPrefix := ⟨"milli", ["m"], 1e-3⟩
def centi : UnitPrefix := ⟨"centi", ["c"], 1e-2⟩
def deci : UnitPrefix := ⟨"deci", ["d"], 1e-1⟩
def deca : UnitPrefix := ⟨"deca", ["da", "deka"], 1e1⟩
def hecto : UnitPrefix := ⟨"hecto", ["h"], 1e2⟩
def kilo : UnitPrefix := ⟨"kilo", ["k"], 1e3⟩
def mega : UnitPrefix := ⟨"mega", [], 1e6⟩
def giga : UnitPrefix := ⟨"giga", [], 1e9⟩
def tera : UnitPrefix := ⟨"tera", [], 1e12⟩
def peta : UnitPrefix := ⟨"peta", [], 1e15⟩
def exa : UnitPrefix := ⟨"exa", [], 1e18⟩
def zetta : UnitPrefix := ⟨"zetta", [], 1e21⟩
def yotta : UnitPrefix := ⟨"yotta", [], 1e24⟩
def ronna : UnitPrefix := ⟨"ronna", [], 1e27⟩
def quetta : UnitPrefix := ⟨"quetta", [], 1e30⟩
def kibi : UnitPrefix := ⟨"kibi", [], 1024⟩
def mebi : UnitPrefix := ⟨"mebi", [], 1048576⟩
def gibi : UnitPrefix := ⟨"gibi", [], 1073741824⟩
def tebi : UnitPrefix := ⟨"tebi", [], 1099511627776⟩
def pebi : UnitPrefix := ⟨"pebi", [], 1125899906842624⟩
def exbi : UnitPrefix := ⟨"exbi", [], 1152921504606846976⟩
def zebi : UnitPrefix := ⟨"zebi", [], 1180591620717411303424⟩
def yobi : UnitPrefix := ⟨"yobi", [], 1208925819614629174706176⟩
def semi : UnitPrefix := ⟨"semi", ["demi"], 0.5⟩
def sesqui : UnitPrefix := ⟨"sesqui", [], 1.5⟩

/-- The prefixes in the order in which they are tried. -/
def all : List UnitPrefix := [
  quecto, ronto, yocto, zepto, atto, femto, pico, nano, micro, milli, centi, deci, deca, hecto,
  kilo, mega, giga, tera, peta, exa, zetta, yotta, ronna, quetta, kibi, mebi, gibi, tebi, pebi,
  exbi, zebi, yobi, semi, sesqui]

/-- A unit with the prefix in front of it. -/
def apply (p : UnitPrefix) (u : Unit) : Unit := .derived (p.name ++ u.name) [] p.scale [(u, 1)]
  .linear

end UnitPrefix

end Measure

end Worksheet
