import Parametric.Text.Basic

/-! # Unit names by dimension, and the prefixes that may stand before them -/
namespace Parametric

inductive Base
  | current
  | length
  | time
  | mass
  | temperature
  | substance
  | luminosity
  | printing
  deriving DecidableEq

/-- Base quantities with their powers, each at most once. -/
abbrev Dimension := List (Base × Float)

namespace Unit

structure Row where
  dimension : Dimension
  names : Text

def rows : List Row :=
  [⟨[], "rad bit pi π zeta ζ α turn deg mas grad gon mil sr byte B ppm ε ϵ RIU AU dB oct Np"⟩,
  ⟨[], "degree radian count"⟩,
  ⟨[(.current, 1)], "A amp ampere biot Bi abA At Gb"⟩,
  ⟨[(.current, 1), (.length, 1), (.time, 1)], "D"⟩,
  ⟨[(.current, 1), (.time, 1)], "e C abC Ah"⟩,
  ⟨[(.current, -1), (.length, 2), (.mass, 1), (.time, -2)], "Wb"⟩,
  ⟨[(.current, -1), (.length, 2), (.mass, 1), (.time, -3)], "volt V abV"⟩,
  ⟨[(.current, -1), (.length, 4), (.mass, 1), (.time, -3)], "Td"⟩,
  ⟨[(.current, -1), (.mass, 1), (.time, -2)], "T γ"⟩,
  ⟨[(.current, -2), (.length, 2), (.mass, 1), (.time, -2)], "H abH"⟩,
  ⟨[(.current, -2), (.length, 2), (.mass, 1), (.time, -3)], "ohm Ω abΩ"⟩,
  ⟨[(.current, 2), (.length, -2), (.mass, -1), (.time, 3)], "S mho abS"⟩,
  ⟨[(.current, 2), (.length, -2), (.mass, -1), (.time, 4)], "F abF"⟩,
  ⟨[(.length, 1)], "m Å Å µ μ fm ly au pc nmi bohr thou th inch in hand foot ft feet yard yd"⟩,
  ⟨[(.length, 1)], "mile mi link li sft rod rd pole fur smi pica pp bp px meter metre inches"⟩,
  ⟨[(.length, 1), (.mass, 1), (.time, -2)], "N newton dyne dyn kgf gf pond tf ozf lbf kip pdl"⟩,
  ⟨[(.length, 1), (.mass, -1)], "Ne NeC ECC Nm"⟩,
  ⟨[(.length, 1), (.mass, -1), (.time, 1)], "rhe"⟩,
  ⟨[(.length, 1), (.time, -1)], "c knot kn kt mph MPH kph KPH kps mps fps LMH"⟩,
  ⟨[(.length, 1), (.time, -2)], "Gal"⟩,
  ⟨[(.length, -0.5), (.mass, 0.5), (.time, -1)], "G Oe"⟩,
  ⟨[(.length, -1), (.mass, 1)], "tex Tt dtex den jute Tj Ta"⟩,
  ⟨[(.length, -1), (.mass, 1), (.time, -1)], "P reyn"⟩,
  ⟨[(.length, -1), (.mass, 1), (.time, -2)], "atm Pa pascal Ba bar at torr psi ksi mHg inHg ftHg"⟩,
  ⟨[(.length, -1), (.mass, 1), (.time, -2)], "SPL mH2O"⟩,
  ⟨[(.length, -1), (.printing, 1)], "PPCM PPI ppi DPI"⟩,
  ⟨[(.length, -2), (.luminosity, 1)], "nit lux lx"⟩,
  ⟨[(.length, -3), (.mass, 1)], "ρHg"⟩,
  ⟨[(.length, -3), (.substance, 1)], "M"⟩,
  ⟨[(.length, 1.5), (.mass, 0.5), (.time, -1)], "Fr esu Mx"⟩,
  ⟨[(.length, 2)], "are barn b ha cmil acre"⟩,
  ⟨[(.length, 2), (.mass, 1), (.substance, -1), (.temperature, -1), (.time, -2)], "R eu"⟩,
  ⟨[(.length, 2), (.mass, 1), (.temperature, -1), (.time, -2)], "k Cl"⟩,
  ⟨[(.length, 2), (.mass, 1), (.time, -1)], "ℎ ħ hbar"⟩,
  ⟨[(.length, 2), (.mass, 1), (.time, -2)], "J joule erg Wh eV Ry Eh cal Btu BTU quad thm tTNT toe"⟩,
  ⟨[(.length, 2), (.mass, 1), (.time, -3)], "watt W VA hp slpm slm dBW dBm dBu"⟩,
  ⟨[(.length, 2), (.time, -1)], "St"⟩,
  ⟨[(.length, 2), (.time, -2)], "gray Gy Sv rads rem RKM"⟩,
  ⟨[(.length, 3)], "l L ℓ cc λ dpi dqt dgal peck pk bu FBM BF BDFT fldr floz gill gi pint pt qt"⟩,
  ⟨[(.length, 3)], "gal tsp tbsp shot jig cup cp bbl liter litre gallon"⟩,
  ⟨[(.length, 3), (.time, -1)], "sv"⟩,
  ⟨[(.luminosity, 1)], "cd lm"⟩,
  ⟨[(.mass, 1)], "gram g t u amu Da gr ct dram dr oz lb bag cwt ton slug blob dwt toz ozt tlb"⟩,
  ⟨[(.mass, 1)], "lbt pound ounce tonne"⟩,
  ⟨[(.mass, 1), (.temperature, -4), (.time, -3)], "σ"⟩,
  ⟨[(.mass, 1), (.time, -2)], "PSH Ly"⟩,
  ⟨[(.printing, 1)], "dot pel"⟩,
  ⟨[(.printing, -1)], "bpp"⟩,
  ⟨[(.substance, 1)], "mole mol"⟩,
  ⟨[(.substance, 1), (.time, -1)], "kat U"⟩,
  ⟨[(.temperature, 1)], "K kelvin degK degC degR degF"⟩,
  ⟨[(.time, 1)], "s sec min minute hour h hr day d week year a yr eon second"⟩,
  ⟨[(.time, -1)], "baud Bd bps Hz hertz rpm rps cps Bq Ci Rd"⟩]

/-- Units of scales with an origin of their own, or of logarithmic ones; they cannot be multiplied. -/
def originNames : List Text :=
  ["dB", "oct", "Np", "dBW", "dBm", "dBu", "degC", "degF"]

def prefixNames : Text :=
  "quecto q ronto r yocto y zepto z atto a femto f pico p nano n micro µ μ u mu mc milli m " ++
    "centi c deci d deca da deka hecto h kilo k mega M giga G tera T peta P exa E zetta Z yotta " ++
    "Y ronna R quetta Q kibi Ki mebi Mi gibi Gi tebi Ti pebi Pi exbi Ei zebi Zi yobi Yi semi " ++
    "demi sesqui"

end Unit

end Parametric
