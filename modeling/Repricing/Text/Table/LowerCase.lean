/-!
# Simple lower-case mappings

The lower-case mappings of Unicode that take one character to one character, as runs of code
points at a constant distance from their lower-case forms.
-/

namespace Repricing.Text

/-- Every `step`-th code point from `first` to `last` has its lower-case form at the same distance
from `lower` as it has from `first`. -/
structure CaseRun where
  first : Nat
  last : Nat
  step : Nat
  lower : Nat
deriving DecidableEq, Repr

/-- The runs, in ascending order and without overlaps. -/
def caseRuns : List CaseRun := [
  ⟨0x0041, 0x005A, 1, 0x0061⟩, ⟨0x00C0, 0x00D6, 1, 0x00E0⟩, ⟨0x00D8, 0x00DE, 1, 0x00F8⟩,
  ⟨0x0100, 0x012E, 2, 0x0101⟩, ⟨0x0132, 0x0136, 2, 0x0133⟩, ⟨0x0139, 0x0147, 2, 0x013A⟩,
  ⟨0x014A, 0x0176, 2, 0x014B⟩, ⟨0x0178, 0x0178, 2, 0x00FF⟩, ⟨0x0179, 0x017D, 2, 0x017A⟩,
  ⟨0x0181, 0x0181, 2, 0x0253⟩, ⟨0x0182, 0x0184, 2, 0x0183⟩, ⟨0x0186, 0x0186, 2, 0x0254⟩,
  ⟨0x0187, 0x0187, 2, 0x0188⟩, ⟨0x0189, 0x018A, 1, 0x0256⟩, ⟨0x018B, 0x018B, 2, 0x018C⟩,
  ⟨0x018E, 0x018E, 2, 0x01DD⟩, ⟨0x018F, 0x018F, 2, 0x0259⟩, ⟨0x0190, 0x0190, 2, 0x025B⟩,
  ⟨0x0191, 0x0191, 2, 0x0192⟩, ⟨0x0193, 0x0193, 2, 0x0260⟩, ⟨0x0194, 0x0194, 2, 0x0263⟩,
  ⟨0x0196, 0x0196, 2, 0x0269⟩, ⟨0x0197, 0x0197, 2, 0x0268⟩, ⟨0x0198, 0x0198, 2, 0x0199⟩,
  ⟨0x019C, 0x019C, 2, 0x026F⟩, ⟨0x019D, 0x019D, 2, 0x0272⟩, ⟨0x019F, 0x019F, 2, 0x0275⟩,
  ⟨0x01A0, 0x01A4, 2, 0x01A1⟩, ⟨0x01A6, 0x01A6, 2, 0x0280⟩, ⟨0x01A7, 0x01A7, 2, 0x01A8⟩,
  ⟨0x01A9, 0x01A9, 2, 0x0283⟩, ⟨0x01AC, 0x01AC, 2, 0x01AD⟩, ⟨0x01AE, 0x01AE, 2, 0x0288⟩,
  ⟨0x01AF, 0x01AF, 2, 0x01B0⟩, ⟨0x01B1, 0x01B2, 1, 0x028A⟩, ⟨0x01B3, 0x01B5, 2, 0x01B4⟩,
  ⟨0x01B7, 0x01B7, 2, 0x0292⟩, ⟨0x01B8, 0x01B8, 2, 0x01B9⟩, ⟨0x01BC, 0x01BC, 2, 0x01BD⟩,
  ⟨0x01C4, 0x01C4, 2, 0x01C6⟩, ⟨0x01C5, 0x01C5, 2, 0x01C6⟩, ⟨0x01C7, 0x01C7, 2, 0x01C9⟩,
  ⟨0x01C8, 0x01C8, 2, 0x01C9⟩, ⟨0x01CA, 0x01CA, 2, 0x01CC⟩, ⟨0x01CB, 0x01DB, 2, 0x01CC⟩,
  ⟨0x01DE, 0x01EE, 2, 0x01DF⟩, ⟨0x01F1, 0x01F1, 2, 0x01F3⟩, ⟨0x01F2, 0x01F4, 2, 0x01F3⟩,
  ⟨0x01F6, 0x01F6, 2, 0x0195⟩, ⟨0x01F7, 0x01F7, 2, 0x01BF⟩, ⟨0x01F8, 0x021E, 2, 0x01F9⟩,
  ⟨0x0220, 0x0220, 2, 0x019E⟩, ⟨0x0222, 0x0232, 2, 0x0223⟩, ⟨0x023A, 0x023A, 2, 0x2C65⟩,
  ⟨0x023B, 0x023B, 2, 0x023C⟩, ⟨0x023D, 0x023D, 2, 0x019A⟩, ⟨0x023E, 0x023E, 2, 0x2C66⟩,
  ⟨0x0241, 0x0241, 2, 0x0242⟩, ⟨0x0243, 0x0243, 2, 0x0180⟩, ⟨0x0244, 0x0244, 2, 0x0289⟩,
  ⟨0x0245, 0x0245, 2, 0x028C⟩, ⟨0x0246, 0x024E, 2, 0x0247⟩, ⟨0x0370, 0x0372, 2, 0x0371⟩,
  ⟨0x0376, 0x0376, 2, 0x0377⟩, ⟨0x037F, 0x037F, 2, 0x03F3⟩, ⟨0x0386, 0x0386, 2, 0x03AC⟩,
  ⟨0x0388, 0x038A, 1, 0x03AD⟩, ⟨0x038C, 0x038C, 2, 0x03CC⟩, ⟨0x038E, 0x038F, 1, 0x03CD⟩,
  ⟨0x0391, 0x03A1, 1, 0x03B1⟩, ⟨0x03A3, 0x03AB, 1, 0x03C3⟩, ⟨0x03CF, 0x03CF, 2, 0x03D7⟩,
  ⟨0x03D8, 0x03EE, 2, 0x03D9⟩, ⟨0x03F4, 0x03F4, 2, 0x03B8⟩, ⟨0x03F7, 0x03F7, 2, 0x03F8⟩,
  ⟨0x03F9, 0x03F9, 2, 0x03F2⟩, ⟨0x03FA, 0x03FA, 2, 0x03FB⟩, ⟨0x03FD, 0x03FF, 1, 0x037B⟩,
  ⟨0x0400, 0x040F, 1, 0x0450⟩, ⟨0x0410, 0x042F, 1, 0x0430⟩, ⟨0x0460, 0x0480, 2, 0x0461⟩,
  ⟨0x048A, 0x04BE, 2, 0x048B⟩, ⟨0x04C0, 0x04C0, 2, 0x04CF⟩, ⟨0x04C1, 0x04CD, 2, 0x04C2⟩,
  ⟨0x04D0, 0x052E, 2, 0x04D1⟩, ⟨0x0531, 0x0556, 1, 0x0561⟩, ⟨0x10A0, 0x10C5, 1, 0x2D00⟩,
  ⟨0x10C7, 0x10C7, 2, 0x2D27⟩, ⟨0x10CD, 0x10CD, 2, 0x2D2D⟩, ⟨0x13A0, 0x13EF, 1, 0xAB70⟩,
  ⟨0x13F0, 0x13F5, 1, 0x13F8⟩, ⟨0x1C89, 0x1C89, 2, 0x1C8A⟩, ⟨0x1C90, 0x1CBA, 1, 0x10D0⟩,
  ⟨0x1CBD, 0x1CBF, 1, 0x10FD⟩, ⟨0x1E00, 0x1E94, 2, 0x1E01⟩, ⟨0x1E9E, 0x1E9E, 2, 0x00DF⟩,
  ⟨0x1EA0, 0x1EFE, 2, 0x1EA1⟩, ⟨0x1F08, 0x1F0F, 1, 0x1F00⟩, ⟨0x1F18, 0x1F1D, 1, 0x1F10⟩,
  ⟨0x1F28, 0x1F2F, 1, 0x1F20⟩, ⟨0x1F38, 0x1F3F, 1, 0x1F30⟩, ⟨0x1F48, 0x1F4D, 1, 0x1F40⟩,
  ⟨0x1F59, 0x1F5F, 2, 0x1F51⟩, ⟨0x1F68, 0x1F6F, 1, 0x1F60⟩, ⟨0x1F88, 0x1F8F, 1, 0x1F80⟩,
  ⟨0x1F98, 0x1F9F, 1, 0x1F90⟩, ⟨0x1FA8, 0x1FAF, 1, 0x1FA0⟩, ⟨0x1FB8, 0x1FB9, 1, 0x1FB0⟩,
  ⟨0x1FBA, 0x1FBB, 1, 0x1F70⟩, ⟨0x1FBC, 0x1FBC, 2, 0x1FB3⟩, ⟨0x1FC8, 0x1FCB, 1, 0x1F72⟩,
  ⟨0x1FCC, 0x1FCC, 2, 0x1FC3⟩, ⟨0x1FD8, 0x1FD9, 1, 0x1FD0⟩, ⟨0x1FDA, 0x1FDB, 1, 0x1F76⟩,
  ⟨0x1FE8, 0x1FE9, 1, 0x1FE0⟩, ⟨0x1FEA, 0x1FEB, 1, 0x1F7A⟩, ⟨0x1FEC, 0x1FEC, 2, 0x1FE5⟩,
  ⟨0x1FF8, 0x1FF9, 1, 0x1F78⟩, ⟨0x1FFA, 0x1FFB, 1, 0x1F7C⟩, ⟨0x1FFC, 0x1FFC, 2, 0x1FF3⟩,
  ⟨0x2126, 0x2126, 2, 0x03C9⟩, ⟨0x212A, 0x212A, 2, 0x006B⟩, ⟨0x212B, 0x212B, 2, 0x00E5⟩,
  ⟨0x2132, 0x2132, 2, 0x214E⟩, ⟨0x2160, 0x216F, 1, 0x2170⟩, ⟨0x2183, 0x2183, 2, 0x2184⟩,
  ⟨0x24B6, 0x24CF, 1, 0x24D0⟩, ⟨0x2C00, 0x2C2F, 1, 0x2C30⟩, ⟨0x2C60, 0x2C60, 2, 0x2C61⟩,
  ⟨0x2C62, 0x2C62, 2, 0x026B⟩, ⟨0x2C63, 0x2C63, 2, 0x1D7D⟩, ⟨0x2C64, 0x2C64, 2, 0x027D⟩,
  ⟨0x2C67, 0x2C6B, 2, 0x2C68⟩, ⟨0x2C6D, 0x2C6D, 2, 0x0251⟩, ⟨0x2C6E, 0x2C6E, 2, 0x0271⟩,
  ⟨0x2C6F, 0x2C6F, 2, 0x0250⟩, ⟨0x2C70, 0x2C70, 2, 0x0252⟩, ⟨0x2C72, 0x2C72, 2, 0x2C73⟩,
  ⟨0x2C75, 0x2C75, 2, 0x2C76⟩, ⟨0x2C7E, 0x2C7F, 1, 0x023F⟩, ⟨0x2C80, 0x2CE2, 2, 0x2C81⟩,
  ⟨0x2CEB, 0x2CED, 2, 0x2CEC⟩, ⟨0x2CF2, 0x2CF2, 2, 0x2CF3⟩, ⟨0xA640, 0xA66C, 2, 0xA641⟩,
  ⟨0xA680, 0xA69A, 2, 0xA681⟩, ⟨0xA722, 0xA72E, 2, 0xA723⟩, ⟨0xA732, 0xA76E, 2, 0xA733⟩,
  ⟨0xA779, 0xA77B, 2, 0xA77A⟩, ⟨0xA77D, 0xA77D, 2, 0x1D79⟩, ⟨0xA77E, 0xA786, 2, 0xA77F⟩,
  ⟨0xA78B, 0xA78B, 2, 0xA78C⟩, ⟨0xA78D, 0xA78D, 2, 0x0265⟩, ⟨0xA790, 0xA792, 2, 0xA791⟩,
  ⟨0xA796, 0xA7A8, 2, 0xA797⟩, ⟨0xA7AA, 0xA7AA, 2, 0x0266⟩, ⟨0xA7AB, 0xA7AB, 2, 0x025C⟩,
  ⟨0xA7AC, 0xA7AC, 2, 0x0261⟩, ⟨0xA7AD, 0xA7AD, 2, 0x026C⟩, ⟨0xA7AE, 0xA7AE, 2, 0x026A⟩,
  ⟨0xA7B0, 0xA7B0, 2, 0x029E⟩, ⟨0xA7B1, 0xA7B1, 2, 0x0287⟩, ⟨0xA7B2, 0xA7B2, 2, 0x029D⟩,
  ⟨0xA7B3, 0xA7B3, 2, 0xAB53⟩, ⟨0xA7B4, 0xA7C2, 2, 0xA7B5⟩, ⟨0xA7C4, 0xA7C4, 2, 0xA794⟩,
  ⟨0xA7C5, 0xA7C5, 2, 0x0282⟩, ⟨0xA7C6, 0xA7C6, 2, 0x1D8E⟩, ⟨0xA7C7, 0xA7C9, 2, 0xA7C8⟩,
  ⟨0xA7CB, 0xA7CB, 2, 0x0264⟩, ⟨0xA7CC, 0xA7DA, 2, 0xA7CD⟩, ⟨0xA7DC, 0xA7DC, 2, 0x019B⟩,
  ⟨0xA7F5, 0xA7F5, 2, 0xA7F6⟩, ⟨0xFF21, 0xFF3A, 1, 0xFF41⟩, ⟨0x10400, 0x10427, 1, 0x10428⟩,
  ⟨0x104B0, 0x104D3, 1, 0x104D8⟩, ⟨0x10570, 0x1057A, 1, 0x10597⟩, ⟨0x1057C, 0x1058A, 1, 0x105A3⟩,
  ⟨0x1058C, 0x10592, 1, 0x105B3⟩, ⟨0x10594, 0x10595, 1, 0x105BB⟩, ⟨0x10C80, 0x10CB2, 1, 0x10CC0⟩,
  ⟨0x10D50, 0x10D65, 1, 0x10D70⟩, ⟨0x118A0, 0x118BF, 1, 0x118C0⟩, ⟨0x16E40, 0x16E5F, 1, 0x16E60⟩,
  ⟨0x16EA0, 0x16EB8, 1, 0x16EBB⟩, ⟨0x1E900, 0x1E921, 1, 0x1E922⟩]

end Repricing.Text
