import Repricing.Text.Decomposition.Block

/-!
# Compatibility decompositions of alphabets

Decompositions of the characters below U+2000: Latin, Greek, Cyrillic, Semitic and Indic letters.
-/

namespace Repricing.Text.Decomposition

/-- Characters from U+00A0 to U+02E4. -/
def alphabetsFrom00A0 : List Block := [
  ⟨0x00A0, [[0x0020]]⟩,
  ⟨0x00A8, [[0x0020, 0x0308]]⟩,
  ⟨0x00AA, [[0x0061]]⟩,
  ⟨0x00AF, [[0x0020, 0x0304]]⟩,
  ⟨0x00B2, [[0x0032], [0x0033], [0x0020, 0x0301], [0x03BC]]⟩,
  ⟨0x00B8, [[0x0020, 0x0327], [0x0031], [0x006F]]⟩,
  ⟨0x00BC, [[0x0031, 0x2044, 0x0034], [0x0031, 0x2044, 0x0032], [0x0033, 0x2044, 0x0034]]⟩,
  ⟨0x00C0, [
    [0x0041, 0x0300], [0x0041, 0x0301], [0x0041, 0x0302], [0x0041, 0x0303], [0x0041, 0x0308],
    [0x0041, 0x030A]]⟩,
  ⟨0x00C7, [
    [0x0043, 0x0327], [0x0045, 0x0300], [0x0045, 0x0301], [0x0045, 0x0302], [0x0045, 0x0308],
    [0x0049, 0x0300], [0x0049, 0x0301], [0x0049, 0x0302], [0x0049, 0x0308]]⟩,
  ⟨0x00D1, [
    [0x004E, 0x0303], [0x004F, 0x0300], [0x004F, 0x0301], [0x004F, 0x0302], [0x004F, 0x0303],
    [0x004F, 0x0308]]⟩,
  ⟨0x00D9, [
    [0x0055, 0x0300], [0x0055, 0x0301], [0x0055, 0x0302], [0x0055, 0x0308], [0x0059, 0x0301]]⟩,
  ⟨0x00E0, [
    [0x0061, 0x0300], [0x0061, 0x0301], [0x0061, 0x0302], [0x0061, 0x0303], [0x0061, 0x0308],
    [0x0061, 0x030A]]⟩,
  ⟨0x00E7, [
    [0x0063, 0x0327], [0x0065, 0x0300], [0x0065, 0x0301], [0x0065, 0x0302], [0x0065, 0x0308],
    [0x0069, 0x0300], [0x0069, 0x0301], [0x0069, 0x0302], [0x0069, 0x0308]]⟩,
  ⟨0x00F1, [
    [0x006E, 0x0303], [0x006F, 0x0300], [0x006F, 0x0301], [0x006F, 0x0302], [0x006F, 0x0303],
    [0x006F, 0x0308]]⟩,
  ⟨0x00F9, [
    [0x0075, 0x0300], [0x0075, 0x0301], [0x0075, 0x0302], [0x0075, 0x0308], [0x0079, 0x0301]]⟩,
  ⟨0x00FF, [
    [0x0079, 0x0308], [0x0041, 0x0304], [0x0061, 0x0304], [0x0041, 0x0306], [0x0061, 0x0306],
    [0x0041, 0x0328], [0x0061, 0x0328], [0x0043, 0x0301], [0x0063, 0x0301], [0x0043, 0x0302],
    [0x0063, 0x0302], [0x0043, 0x0307], [0x0063, 0x0307], [0x0043, 0x030C], [0x0063, 0x030C],
    [0x0044, 0x030C], [0x0064, 0x030C]]⟩,
  ⟨0x0112, [
    [0x0045, 0x0304], [0x0065, 0x0304], [0x0045, 0x0306], [0x0065, 0x0306], [0x0045, 0x0307],
    [0x0065, 0x0307], [0x0045, 0x0328], [0x0065, 0x0328], [0x0045, 0x030C], [0x0065, 0x030C],
    [0x0047, 0x0302], [0x0067, 0x0302], [0x0047, 0x0306], [0x0067, 0x0306], [0x0047, 0x0307],
    [0x0067, 0x0307], [0x0047, 0x0327], [0x0067, 0x0327], [0x0048, 0x0302], [0x0068, 0x0302]]⟩,
  ⟨0x0128, [
    [0x0049, 0x0303], [0x0069, 0x0303], [0x0049, 0x0304], [0x0069, 0x0304], [0x0049, 0x0306],
    [0x0069, 0x0306], [0x0049, 0x0328], [0x0069, 0x0328], [0x0049, 0x0307]]⟩,
  ⟨0x0132, [
    [0x0049, 0x004A], [0x0069, 0x006A], [0x004A, 0x0302], [0x006A, 0x0302], [0x004B, 0x0327],
    [0x006B, 0x0327]]⟩,
  ⟨0x0139, [
    [0x004C, 0x0301], [0x006C, 0x0301], [0x004C, 0x0327], [0x006C, 0x0327], [0x004C, 0x030C],
    [0x006C, 0x030C], [0x004C, 0x00B7], [0x006C, 0x00B7]]⟩,
  ⟨0x0143, [
    [0x004E, 0x0301], [0x006E, 0x0301], [0x004E, 0x0327], [0x006E, 0x0327], [0x004E, 0x030C],
    [0x006E, 0x030C], [0x02BC, 0x006E]]⟩,
  ⟨0x014C, [
    [0x004F, 0x0304], [0x006F, 0x0304], [0x004F, 0x0306], [0x006F, 0x0306], [0x004F, 0x030B],
    [0x006F, 0x030B]]⟩,
  ⟨0x0154, [
    [0x0052, 0x0301], [0x0072, 0x0301], [0x0052, 0x0327], [0x0072, 0x0327], [0x0052, 0x030C],
    [0x0072, 0x030C], [0x0053, 0x0301], [0x0073, 0x0301], [0x0053, 0x0302], [0x0073, 0x0302],
    [0x0053, 0x0327], [0x0073, 0x0327], [0x0053, 0x030C], [0x0073, 0x030C], [0x0054, 0x0327],
    [0x0074, 0x0327], [0x0054, 0x030C], [0x0074, 0x030C]]⟩,
  ⟨0x0168, [
    [0x0055, 0x0303], [0x0075, 0x0303], [0x0055, 0x0304], [0x0075, 0x0304], [0x0055, 0x0306],
    [0x0075, 0x0306], [0x0055, 0x030A], [0x0075, 0x030A], [0x0055, 0x030B], [0x0075, 0x030B],
    [0x0055, 0x0328], [0x0075, 0x0328], [0x0057, 0x0302], [0x0077, 0x0302], [0x0059, 0x0302],
    [0x0079, 0x0302], [0x0059, 0x0308], [0x005A, 0x0301], [0x007A, 0x0301], [0x005A, 0x0307],
    [0x007A, 0x0307], [0x005A, 0x030C], [0x007A, 0x030C], [0x0073]]⟩,
  ⟨0x01A0, [[0x004F, 0x031B], [0x006F, 0x031B]]⟩,
  ⟨0x01AF, [[0x0055, 0x031B], [0x0075, 0x031B]]⟩,
  ⟨0x01C4, [
    [0x0044, 0x005A, 0x030C], [0x0044, 0x007A, 0x030C], [0x0064, 0x007A, 0x030C],
    [0x004C, 0x004A], [0x004C, 0x006A], [0x006C, 0x006A], [0x004E, 0x004A], [0x004E, 0x006A],
    [0x006E, 0x006A], [0x0041, 0x030C], [0x0061, 0x030C], [0x0049, 0x030C], [0x0069, 0x030C],
    [0x004F, 0x030C], [0x006F, 0x030C], [0x0055, 0x030C], [0x0075, 0x030C],
    [0x0055, 0x0308, 0x0304], [0x0075, 0x0308, 0x0304], [0x0055, 0x0308, 0x0301],
    [0x0075, 0x0308, 0x0301], [0x0055, 0x0308, 0x030C], [0x0075, 0x0308, 0x030C],
    [0x0055, 0x0308, 0x0300], [0x0075, 0x0308, 0x0300]]⟩,
  ⟨0x01DE, [
    [0x0041, 0x0308, 0x0304], [0x0061, 0x0308, 0x0304], [0x0041, 0x0307, 0x0304],
    [0x0061, 0x0307, 0x0304], [0x00C6, 0x0304], [0x00E6, 0x0304]]⟩,
  ⟨0x01E6, [
    [0x0047, 0x030C], [0x0067, 0x030C], [0x004B, 0x030C], [0x006B, 0x030C], [0x004F, 0x0328],
    [0x006F, 0x0328], [0x004F, 0x0328, 0x0304], [0x006F, 0x0328, 0x0304], [0x01B7, 0x030C],
    [0x0292, 0x030C], [0x006A, 0x030C], [0x0044, 0x005A], [0x0044, 0x007A], [0x0064, 0x007A],
    [0x0047, 0x0301], [0x0067, 0x0301]]⟩,
  ⟨0x01F8, [
    [0x004E, 0x0300], [0x006E, 0x0300], [0x0041, 0x030A, 0x0301], [0x0061, 0x030A, 0x0301],
    [0x00C6, 0x0301], [0x00E6, 0x0301], [0x00D8, 0x0301], [0x00F8, 0x0301], [0x0041, 0x030F],
    [0x0061, 0x030F], [0x0041, 0x0311], [0x0061, 0x0311], [0x0045, 0x030F], [0x0065, 0x030F],
    [0x0045, 0x0311], [0x0065, 0x0311], [0x0049, 0x030F], [0x0069, 0x030F], [0x0049, 0x0311],
    [0x0069, 0x0311], [0x004F, 0x030F], [0x006F, 0x030F], [0x004F, 0x0311], [0x006F, 0x0311],
    [0x0052, 0x030F], [0x0072, 0x030F], [0x0052, 0x0311], [0x0072, 0x0311], [0x0055, 0x030F],
    [0x0075, 0x030F], [0x0055, 0x0311], [0x0075, 0x0311], [0x0053, 0x0326], [0x0073, 0x0326],
    [0x0054, 0x0326], [0x0074, 0x0326]]⟩,
  ⟨0x021E, [[0x0048, 0x030C], [0x0068, 0x030C]]⟩,
  ⟨0x0226, [
    [0x0041, 0x0307], [0x0061, 0x0307], [0x0045, 0x0327], [0x0065, 0x0327],
    [0x004F, 0x0308, 0x0304], [0x006F, 0x0308, 0x0304], [0x004F, 0x0303, 0x0304],
    [0x006F, 0x0303, 0x0304], [0x004F, 0x0307], [0x006F, 0x0307], [0x004F, 0x0307, 0x0304],
    [0x006F, 0x0307, 0x0304], [0x0059, 0x0304], [0x0079, 0x0304]]⟩,
  ⟨0x02B0, [
    [0x0068], [0x0266], [0x006A], [0x0072], [0x0279], [0x027B], [0x0281], [0x0077], [0x0079]]⟩,
  ⟨0x02D8, [
    [0x0020, 0x0306], [0x0020, 0x0307], [0x0020, 0x030A], [0x0020, 0x0328], [0x0020, 0x0303],
    [0x0020, 0x030B]]⟩,
  ⟨0x02E0, [[0x0263], [0x006C], [0x0073], [0x0078], [0x0295]]⟩]

/-- Characters from U+0340 to U+1E9B. -/
def alphabetsFrom0340 : List Block := [
  ⟨0x0340, [[0x0300], [0x0301]]⟩,
  ⟨0x0343, [[0x0313], [0x0308, 0x0301]]⟩,
  ⟨0x0374, [[0x02B9]]⟩,
  ⟨0x037A, [[0x0020, 0x0345]]⟩,
  ⟨0x037E, [[0x003B]]⟩,
  ⟨0x0384, [
    [0x0020, 0x0301], [0x0020, 0x0308, 0x0301], [0x0391, 0x0301], [0x00B7], [0x0395, 0x0301],
    [0x0397, 0x0301], [0x0399, 0x0301]]⟩,
  ⟨0x038C, [[0x039F, 0x0301]]⟩,
  ⟨0x038E, [[0x03A5, 0x0301], [0x03A9, 0x0301], [0x03B9, 0x0308, 0x0301]]⟩,
  ⟨0x03AA, [
    [0x0399, 0x0308], [0x03A5, 0x0308], [0x03B1, 0x0301], [0x03B5, 0x0301], [0x03B7, 0x0301],
    [0x03B9, 0x0301], [0x03C5, 0x0308, 0x0301]]⟩,
  ⟨0x03CA, [
    [0x03B9, 0x0308], [0x03C5, 0x0308], [0x03BF, 0x0301], [0x03C5, 0x0301], [0x03C9, 0x0301]]⟩,
  ⟨0x03D0, [
    [0x03B2], [0x03B8], [0x03A5], [0x03A5, 0x0301], [0x03A5, 0x0308], [0x03C6], [0x03C0]]⟩,
  ⟨0x03F0, [[0x03BA], [0x03C1], [0x03C2]]⟩,
  ⟨0x03F4, [[0x0398], [0x03B5]]⟩,
  ⟨0x03F9, [[0x03A3]]⟩,
  ⟨0x0400, [[0x0415, 0x0300], [0x0415, 0x0308]]⟩,
  ⟨0x0403, [[0x0413, 0x0301]]⟩,
  ⟨0x0407, [[0x0406, 0x0308]]⟩,
  ⟨0x040C, [[0x041A, 0x0301], [0x0418, 0x0300], [0x0423, 0x0306]]⟩,
  ⟨0x0419, [[0x0418, 0x0306]]⟩,
  ⟨0x0439, [[0x0438, 0x0306]]⟩,
  ⟨0x0450, [[0x0435, 0x0300], [0x0435, 0x0308]]⟩,
  ⟨0x0453, [[0x0433, 0x0301]]⟩,
  ⟨0x0457, [[0x0456, 0x0308]]⟩,
  ⟨0x045C, [[0x043A, 0x0301], [0x0438, 0x0300], [0x0443, 0x0306]]⟩,
  ⟨0x0476, [[0x0474, 0x030F], [0x0475, 0x030F]]⟩,
  ⟨0x04C1, [[0x0416, 0x0306], [0x0436, 0x0306]]⟩,
  ⟨0x04D0, [[0x0410, 0x0306], [0x0430, 0x0306], [0x0410, 0x0308], [0x0430, 0x0308]]⟩,
  ⟨0x04D6, [[0x0415, 0x0306], [0x0435, 0x0306]]⟩,
  ⟨0x04DA, [
    [0x04D8, 0x0308], [0x04D9, 0x0308], [0x0416, 0x0308], [0x0436, 0x0308], [0x0417, 0x0308],
    [0x0437, 0x0308]]⟩,
  ⟨0x04E2, [
    [0x0418, 0x0304], [0x0438, 0x0304], [0x0418, 0x0308], [0x0438, 0x0308], [0x041E, 0x0308],
    [0x043E, 0x0308]]⟩,
  ⟨0x04EA, [
    [0x04E8, 0x0308], [0x04E9, 0x0308], [0x042D, 0x0308], [0x044D, 0x0308], [0x0423, 0x0304],
    [0x0443, 0x0304], [0x0423, 0x0308], [0x0443, 0x0308], [0x0423, 0x030B], [0x0443, 0x030B],
    [0x0427, 0x0308], [0x0447, 0x0308]]⟩,
  ⟨0x04F8, [[0x042B, 0x0308], [0x044B, 0x0308]]⟩,
  ⟨0x0558, [[0x0567]]⟩,
  ⟨0x0587, [[0x0565, 0x0582]]⟩,
  ⟨0x058B, [[0x056B], [0x0575]]⟩,
  ⟨0x0622, [
    [0x0627, 0x0653], [0x0627, 0x0654], [0x0648, 0x0654], [0x0627, 0x0655], [0x064A, 0x0654]]⟩,
  ⟨0x0675, [[0x0627, 0x0674], [0x0648, 0x0674], [0x06C7, 0x0674], [0x064A, 0x0674]]⟩,
  ⟨0x06C0, [[0x06D5, 0x0654]]⟩,
  ⟨0x06C2, [[0x06C1, 0x0654]]⟩,
  ⟨0x06D3, [[0x06D2, 0x0654]]⟩,
  ⟨0x0929, [[0x0928, 0x093C]]⟩,
  ⟨0x0931, [[0x0930, 0x093C]]⟩,
  ⟨0x0934, [[0x0933, 0x093C]]⟩,
  ⟨0x0958, [
    [0x0915, 0x093C], [0x0916, 0x093C], [0x0917, 0x093C], [0x091C, 0x093C], [0x0921, 0x093C],
    [0x0922, 0x093C], [0x092B, 0x093C], [0x092F, 0x093C]]⟩,
  ⟨0x09CB, [[0x09C7, 0x09BE], [0x09C7, 0x09D7]]⟩,
  ⟨0x09DC, [[0x09A1, 0x09BC], [0x09A2, 0x09BC]]⟩,
  ⟨0x09DF, [[0x09AF, 0x09BC]]⟩,
  ⟨0x0A33, [[0x0A32, 0x0A3C]]⟩,
  ⟨0x0A36, [[0x0A38, 0x0A3C]]⟩,
  ⟨0x0A59, [[0x0A16, 0x0A3C], [0x0A17, 0x0A3C], [0x0A1C, 0x0A3C]]⟩,
  ⟨0x0A5E, [[0x0A2B, 0x0A3C]]⟩,
  ⟨0x0B48, [[0x0B47, 0x0B56]]⟩,
  ⟨0x0B4B, [[0x0B47, 0x0B3E], [0x0B47, 0x0B57]]⟩,
  ⟨0x0B5C, [[0x0B21, 0x0B3C], [0x0B22, 0x0B3C]]⟩,
  ⟨0x0B94, [[0x0B92, 0x0BD7]]⟩,
  ⟨0x0BCA, [[0x0BC6, 0x0BBE], [0x0BC7, 0x0BBE], [0x0BC6, 0x0BD7]]⟩,
  ⟨0x0C48, [[0x0C46, 0x0C56]]⟩,
  ⟨0x0CC0, [[0x0CBF, 0x0CD5]]⟩,
  ⟨0x0CC7, [[0x0CC6, 0x0CD5], [0x0CC6, 0x0CD6]]⟩,
  ⟨0x0CCA, [[0x0CC6, 0x0CC2], [0x0CC6, 0x0CC2, 0x0CD5]]⟩,
  ⟨0x0D4A, [[0x0D46, 0x0D3E], [0x0D47, 0x0D3E], [0x0D46, 0x0D57]]⟩,
  ⟨0x0DDA, [[0x0DD9, 0x0DCA]]⟩,
  ⟨0x0DDC, [[0x0DD9, 0x0DCF], [0x0DD9, 0x0DCF, 0x0DCA], [0x0DD9, 0x0DDF]]⟩,
  ⟨0x0E33, [[0x0E4D, 0x0E32]]⟩,
  ⟨0x0EB3, [[0x0ECD, 0x0EB2]]⟩,
  ⟨0x0EDC, [[0x0EAB, 0x0E99], [0x0EAB, 0x0EA1]]⟩,
  ⟨0x0F0C, [[0x0F0B]]⟩,
  ⟨0x0F43, [[0x0F42, 0x0FB7]]⟩,
  ⟨0x0F4D, [[0x0F4C, 0x0FB7]]⟩,
  ⟨0x0F52, [[0x0F51, 0x0FB7]]⟩,
  ⟨0x0F57, [[0x0F56, 0x0FB7]]⟩,
  ⟨0x0F5C, [[0x0F5B, 0x0FB7]]⟩,
  ⟨0x0F69, [[0x0F40, 0x0FB5]]⟩,
  ⟨0x0F73, [[0x0F71, 0x0F72]]⟩,
  ⟨0x0F75, [
    [0x0F71, 0x0F74], [0x0FB2, 0x0F80], [0x0FB2, 0x0F71, 0x0F80], [0x0FB3, 0x0F80],
    [0x0FB3, 0x0F71, 0x0F80]]⟩,
  ⟨0x0F81, [[0x0F71, 0x0F80]]⟩,
  ⟨0x0F93, [[0x0F92, 0x0FB7]]⟩,
  ⟨0x0F9D, [[0x0F9C, 0x0FB7]]⟩,
  ⟨0x0FA2, [[0x0FA1, 0x0FB7]]⟩,
  ⟨0x0FA7, [[0x0FA6, 0x0FB7]]⟩,
  ⟨0x0FAC, [[0x0FAB, 0x0FB7]]⟩,
  ⟨0x0FB9, [[0x0F90, 0x0FB5]]⟩,
  ⟨0x1026, [[0x1025, 0x102E]]⟩,
  ⟨0x10FC, [[0x10DC]]⟩,
  ⟨0x1B06, [[0x1B05, 0x1B35]]⟩,
  ⟨0x1B08, [[0x1B07, 0x1B35]]⟩,
  ⟨0x1B0A, [[0x1B09, 0x1B35]]⟩,
  ⟨0x1B0C, [[0x1B0B, 0x1B35]]⟩,
  ⟨0x1B0E, [[0x1B0D, 0x1B35]]⟩,
  ⟨0x1B12, [[0x1B11, 0x1B35]]⟩,
  ⟨0x1B3B, [[0x1B3A, 0x1B35]]⟩,
  ⟨0x1B3D, [[0x1B3C, 0x1B35]]⟩,
  ⟨0x1B40, [[0x1B3E, 0x1B35], [0x1B3F, 0x1B35]]⟩,
  ⟨0x1B43, [[0x1B42, 0x1B35]]⟩,
  ⟨0x1D2C, [[0x0041], [0x00C6], [0x0042]]⟩,
  ⟨0x1D30, [
    [0x0044], [0x0045], [0x018E], [0x0047], [0x0048], [0x0049], [0x004A], [0x004B], [0x004C],
    [0x004D], [0x004E]]⟩,
  ⟨0x1D3C, [
    [0x004F], [0x0222], [0x0050], [0x0052], [0x0054], [0x0055], [0x0057], [0x0061], [0x0250],
    [0x0251], [0x1D02], [0x0062], [0x0064], [0x0065], [0x0259], [0x025B], [0x025C], [0x0067]]⟩,
  ⟨0x1D4F, [
    [0x006B], [0x006D], [0x014B], [0x006F], [0x0254], [0x1D16], [0x1D17], [0x0070], [0x0074],
    [0x0075], [0x1D1D], [0x026F], [0x0076], [0x1D25], [0x03B2], [0x03B3], [0x03B4], [0x03C6],
    [0x03C7], [0x0069], [0x0072], [0x0075], [0x0076], [0x03B2], [0x03B3], [0x03C1], [0x03C6],
    [0x03C7]]⟩,
  ⟨0x1D78, [[0x043D]]⟩,
  ⟨0x1D9B, [
    [0x0252], [0x0063], [0x0255], [0x00F0], [0x025C], [0x0066], [0x025F], [0x0261], [0x0265],
    [0x0268], [0x0269], [0x026A], [0x1D7B], [0x029D], [0x026D], [0x1D85], [0x029F], [0x0271],
    [0x0270], [0x0272], [0x0273], [0x0274], [0x0275], [0x0278], [0x0282], [0x0283], [0x01AB],
    [0x0289], [0x028A], [0x1D1C], [0x028B], [0x028C], [0x007A], [0x0290], [0x0291], [0x0292],
    [0x03B8]]⟩,
  ⟨0x1E00, [
    [0x0041, 0x0325], [0x0061, 0x0325], [0x0042, 0x0307], [0x0062, 0x0307], [0x0042, 0x0323],
    [0x0062, 0x0323], [0x0042, 0x0331], [0x0062, 0x0331], [0x0043, 0x0327, 0x0301],
    [0x0063, 0x0327, 0x0301], [0x0044, 0x0307], [0x0064, 0x0307], [0x0044, 0x0323],
    [0x0064, 0x0323], [0x0044, 0x0331], [0x0064, 0x0331], [0x0044, 0x0327], [0x0064, 0x0327],
    [0x0044, 0x032D], [0x0064, 0x032D], [0x0045, 0x0304, 0x0300], [0x0065, 0x0304, 0x0300],
    [0x0045, 0x0304, 0x0301], [0x0065, 0x0304, 0x0301], [0x0045, 0x032D], [0x0065, 0x032D],
    [0x0045, 0x0330], [0x0065, 0x0330], [0x0045, 0x0327, 0x0306], [0x0065, 0x0327, 0x0306],
    [0x0046, 0x0307], [0x0066, 0x0307], [0x0047, 0x0304], [0x0067, 0x0304], [0x0048, 0x0307],
    [0x0068, 0x0307], [0x0048, 0x0323], [0x0068, 0x0323], [0x0048, 0x0308], [0x0068, 0x0308],
    [0x0048, 0x0327], [0x0068, 0x0327], [0x0048, 0x032E], [0x0068, 0x032E], [0x0049, 0x0330],
    [0x0069, 0x0330], [0x0049, 0x0308, 0x0301], [0x0069, 0x0308, 0x0301], [0x004B, 0x0301],
    [0x006B, 0x0301], [0x004B, 0x0323], [0x006B, 0x0323], [0x004B, 0x0331], [0x006B, 0x0331],
    [0x004C, 0x0323], [0x006C, 0x0323], [0x004C, 0x0323, 0x0304], [0x006C, 0x0323, 0x0304],
    [0x004C, 0x0331], [0x006C, 0x0331], [0x004C, 0x032D], [0x006C, 0x032D], [0x004D, 0x0301],
    [0x006D, 0x0301], [0x004D, 0x0307], [0x006D, 0x0307], [0x004D, 0x0323], [0x006D, 0x0323],
    [0x004E, 0x0307], [0x006E, 0x0307], [0x004E, 0x0323], [0x006E, 0x0323], [0x004E, 0x0331],
    [0x006E, 0x0331], [0x004E, 0x032D], [0x006E, 0x032D], [0x004F, 0x0303, 0x0301],
    [0x006F, 0x0303, 0x0301], [0x004F, 0x0303, 0x0308], [0x006F, 0x0303, 0x0308],
    [0x004F, 0x0304, 0x0300], [0x006F, 0x0304, 0x0300], [0x004F, 0x0304, 0x0301],
    [0x006F, 0x0304, 0x0301], [0x0050, 0x0301], [0x0070, 0x0301], [0x0050, 0x0307],
    [0x0070, 0x0307], [0x0052, 0x0307], [0x0072, 0x0307], [0x0052, 0x0323], [0x0072, 0x0323],
    [0x0052, 0x0323, 0x0304], [0x0072, 0x0323, 0x0304], [0x0052, 0x0331], [0x0072, 0x0331],
    [0x0053, 0x0307], [0x0073, 0x0307], [0x0053, 0x0323], [0x0073, 0x0323],
    [0x0053, 0x0301, 0x0307], [0x0073, 0x0301, 0x0307], [0x0053, 0x030C, 0x0307],
    [0x0073, 0x030C, 0x0307], [0x0053, 0x0323, 0x0307], [0x0073, 0x0323, 0x0307],
    [0x0054, 0x0307], [0x0074, 0x0307], [0x0054, 0x0323], [0x0074, 0x0323], [0x0054, 0x0331],
    [0x0074, 0x0331], [0x0054, 0x032D], [0x0074, 0x032D], [0x0055, 0x0324], [0x0075, 0x0324],
    [0x0055, 0x0330], [0x0075, 0x0330], [0x0055, 0x032D], [0x0075, 0x032D],
    [0x0055, 0x0303, 0x0301], [0x0075, 0x0303, 0x0301], [0x0055, 0x0304, 0x0308],
    [0x0075, 0x0304, 0x0308], [0x0056, 0x0303], [0x0076, 0x0303], [0x0056, 0x0323],
    [0x0076, 0x0323], [0x0057, 0x0300], [0x0077, 0x0300], [0x0057, 0x0301], [0x0077, 0x0301],
    [0x0057, 0x0308], [0x0077, 0x0308], [0x0057, 0x0307], [0x0077, 0x0307], [0x0057, 0x0323],
    [0x0077, 0x0323], [0x0058, 0x0307], [0x0078, 0x0307], [0x0058, 0x0308], [0x0078, 0x0308],
    [0x0059, 0x0307], [0x0079, 0x0307], [0x005A, 0x0302], [0x007A, 0x0302], [0x005A, 0x0323],
    [0x007A, 0x0323], [0x005A, 0x0331], [0x007A, 0x0331], [0x0068, 0x0331], [0x0074, 0x0308],
    [0x0077, 0x030A], [0x0079, 0x030A], [0x0061, 0x02BE], [0x0073, 0x0307]]⟩]

/-- Characters from U+1EA0 to U+1FEF. -/
def alphabetsFrom1EA0 : List Block := [
  ⟨0x1EA0, [
    [0x0041, 0x0323], [0x0061, 0x0323], [0x0041, 0x0309], [0x0061, 0x0309],
    [0x0041, 0x0302, 0x0301], [0x0061, 0x0302, 0x0301], [0x0041, 0x0302, 0x0300],
    [0x0061, 0x0302, 0x0300], [0x0041, 0x0302, 0x0309], [0x0061, 0x0302, 0x0309],
    [0x0041, 0x0302, 0x0303], [0x0061, 0x0302, 0x0303], [0x0041, 0x0323, 0x0302],
    [0x0061, 0x0323, 0x0302], [0x0041, 0x0306, 0x0301], [0x0061, 0x0306, 0x0301],
    [0x0041, 0x0306, 0x0300], [0x0061, 0x0306, 0x0300], [0x0041, 0x0306, 0x0309],
    [0x0061, 0x0306, 0x0309], [0x0041, 0x0306, 0x0303], [0x0061, 0x0306, 0x0303],
    [0x0041, 0x0323, 0x0306], [0x0061, 0x0323, 0x0306], [0x0045, 0x0323], [0x0065, 0x0323],
    [0x0045, 0x0309], [0x0065, 0x0309], [0x0045, 0x0303], [0x0065, 0x0303],
    [0x0045, 0x0302, 0x0301], [0x0065, 0x0302, 0x0301], [0x0045, 0x0302, 0x0300],
    [0x0065, 0x0302, 0x0300], [0x0045, 0x0302, 0x0309], [0x0065, 0x0302, 0x0309],
    [0x0045, 0x0302, 0x0303], [0x0065, 0x0302, 0x0303], [0x0045, 0x0323, 0x0302],
    [0x0065, 0x0323, 0x0302], [0x0049, 0x0309], [0x0069, 0x0309], [0x0049, 0x0323],
    [0x0069, 0x0323], [0x004F, 0x0323], [0x006F, 0x0323], [0x004F, 0x0309], [0x006F, 0x0309],
    [0x004F, 0x0302, 0x0301], [0x006F, 0x0302, 0x0301], [0x004F, 0x0302, 0x0300],
    [0x006F, 0x0302, 0x0300], [0x004F, 0x0302, 0x0309], [0x006F, 0x0302, 0x0309],
    [0x004F, 0x0302, 0x0303], [0x006F, 0x0302, 0x0303], [0x004F, 0x0323, 0x0302],
    [0x006F, 0x0323, 0x0302], [0x004F, 0x031B, 0x0301], [0x006F, 0x031B, 0x0301],
    [0x004F, 0x031B, 0x0300], [0x006F, 0x031B, 0x0300], [0x004F, 0x031B, 0x0309],
    [0x006F, 0x031B, 0x0309], [0x004F, 0x031B, 0x0303], [0x006F, 0x031B, 0x0303],
    [0x004F, 0x031B, 0x0323], [0x006F, 0x031B, 0x0323], [0x0055, 0x0323], [0x0075, 0x0323],
    [0x0055, 0x0309], [0x0075, 0x0309], [0x0055, 0x031B, 0x0301], [0x0075, 0x031B, 0x0301],
    [0x0055, 0x031B, 0x0300], [0x0075, 0x031B, 0x0300], [0x0055, 0x031B, 0x0309],
    [0x0075, 0x031B, 0x0309], [0x0055, 0x031B, 0x0303], [0x0075, 0x031B, 0x0303],
    [0x0055, 0x031B, 0x0323], [0x0075, 0x031B, 0x0323], [0x0059, 0x0300], [0x0079, 0x0300],
    [0x0059, 0x0323], [0x0079, 0x0323], [0x0059, 0x0309], [0x0079, 0x0309], [0x0059, 0x0303],
    [0x0079, 0x0303]]⟩,
  ⟨0x1F00, [
    [0x03B1, 0x0313], [0x03B1, 0x0314], [0x03B1, 0x0313, 0x0300], [0x03B1, 0x0314, 0x0300],
    [0x03B1, 0x0313, 0x0301], [0x03B1, 0x0314, 0x0301], [0x03B1, 0x0313, 0x0342],
    [0x03B1, 0x0314, 0x0342], [0x0391, 0x0313], [0x0391, 0x0314], [0x0391, 0x0313, 0x0300],
    [0x0391, 0x0314, 0x0300], [0x0391, 0x0313, 0x0301], [0x0391, 0x0314, 0x0301],
    [0x0391, 0x0313, 0x0342], [0x0391, 0x0314, 0x0342], [0x03B5, 0x0313], [0x03B5, 0x0314],
    [0x03B5, 0x0313, 0x0300], [0x03B5, 0x0314, 0x0300], [0x03B5, 0x0313, 0x0301],
    [0x03B5, 0x0314, 0x0301]]⟩,
  ⟨0x1F18, [
    [0x0395, 0x0313], [0x0395, 0x0314], [0x0395, 0x0313, 0x0300], [0x0395, 0x0314, 0x0300],
    [0x0395, 0x0313, 0x0301], [0x0395, 0x0314, 0x0301]]⟩,
  ⟨0x1F20, [
    [0x03B7, 0x0313], [0x03B7, 0x0314], [0x03B7, 0x0313, 0x0300], [0x03B7, 0x0314, 0x0300],
    [0x03B7, 0x0313, 0x0301], [0x03B7, 0x0314, 0x0301], [0x03B7, 0x0313, 0x0342],
    [0x03B7, 0x0314, 0x0342], [0x0397, 0x0313], [0x0397, 0x0314], [0x0397, 0x0313, 0x0300],
    [0x0397, 0x0314, 0x0300], [0x0397, 0x0313, 0x0301], [0x0397, 0x0314, 0x0301],
    [0x0397, 0x0313, 0x0342], [0x0397, 0x0314, 0x0342], [0x03B9, 0x0313], [0x03B9, 0x0314],
    [0x03B9, 0x0313, 0x0300], [0x03B9, 0x0314, 0x0300], [0x03B9, 0x0313, 0x0301],
    [0x03B9, 0x0314, 0x0301], [0x03B9, 0x0313, 0x0342], [0x03B9, 0x0314, 0x0342],
    [0x0399, 0x0313], [0x0399, 0x0314], [0x0399, 0x0313, 0x0300], [0x0399, 0x0314, 0x0300],
    [0x0399, 0x0313, 0x0301], [0x0399, 0x0314, 0x0301], [0x0399, 0x0313, 0x0342],
    [0x0399, 0x0314, 0x0342], [0x03BF, 0x0313], [0x03BF, 0x0314], [0x03BF, 0x0313, 0x0300],
    [0x03BF, 0x0314, 0x0300], [0x03BF, 0x0313, 0x0301], [0x03BF, 0x0314, 0x0301]]⟩,
  ⟨0x1F48, [
    [0x039F, 0x0313], [0x039F, 0x0314], [0x039F, 0x0313, 0x0300], [0x039F, 0x0314, 0x0300],
    [0x039F, 0x0313, 0x0301], [0x039F, 0x0314, 0x0301]]⟩,
  ⟨0x1F50, [
    [0x03C5, 0x0313], [0x03C5, 0x0314], [0x03C5, 0x0313, 0x0300], [0x03C5, 0x0314, 0x0300],
    [0x03C5, 0x0313, 0x0301], [0x03C5, 0x0314, 0x0301], [0x03C5, 0x0313, 0x0342],
    [0x03C5, 0x0314, 0x0342]]⟩,
  ⟨0x1F59, [[0x03A5, 0x0314]]⟩,
  ⟨0x1F5B, [[0x03A5, 0x0314, 0x0300]]⟩,
  ⟨0x1F5D, [[0x03A5, 0x0314, 0x0301]]⟩,
  ⟨0x1F5F, [
    [0x03A5, 0x0314, 0x0342], [0x03C9, 0x0313], [0x03C9, 0x0314], [0x03C9, 0x0313, 0x0300],
    [0x03C9, 0x0314, 0x0300], [0x03C9, 0x0313, 0x0301], [0x03C9, 0x0314, 0x0301],
    [0x03C9, 0x0313, 0x0342], [0x03C9, 0x0314, 0x0342], [0x03A9, 0x0313], [0x03A9, 0x0314],
    [0x03A9, 0x0313, 0x0300], [0x03A9, 0x0314, 0x0300], [0x03A9, 0x0313, 0x0301],
    [0x03A9, 0x0314, 0x0301], [0x03A9, 0x0313, 0x0342], [0x03A9, 0x0314, 0x0342],
    [0x03B1, 0x0300], [0x03B1, 0x0301], [0x03B5, 0x0300], [0x03B5, 0x0301], [0x03B7, 0x0300],
    [0x03B7, 0x0301], [0x03B9, 0x0300], [0x03B9, 0x0301], [0x03BF, 0x0300], [0x03BF, 0x0301],
    [0x03C5, 0x0300], [0x03C5, 0x0301], [0x03C9, 0x0300], [0x03C9, 0x0301]]⟩,
  ⟨0x1F80, [
    [0x03B1, 0x0313, 0x0345], [0x03B1, 0x0314, 0x0345], [0x03B1, 0x0313, 0x0300, 0x0345],
    [0x03B1, 0x0314, 0x0300, 0x0345], [0x03B1, 0x0313, 0x0301, 0x0345],
    [0x03B1, 0x0314, 0x0301, 0x0345], [0x03B1, 0x0313, 0x0342, 0x0345],
    [0x03B1, 0x0314, 0x0342, 0x0345], [0x0391, 0x0313, 0x0345], [0x0391, 0x0314, 0x0345],
    [0x0391, 0x0313, 0x0300, 0x0345], [0x0391, 0x0314, 0x0300, 0x0345],
    [0x0391, 0x0313, 0x0301, 0x0345], [0x0391, 0x0314, 0x0301, 0x0345],
    [0x0391, 0x0313, 0x0342, 0x0345], [0x0391, 0x0314, 0x0342, 0x0345],
    [0x03B7, 0x0313, 0x0345], [0x03B7, 0x0314, 0x0345], [0x03B7, 0x0313, 0x0300, 0x0345],
    [0x03B7, 0x0314, 0x0300, 0x0345], [0x03B7, 0x0313, 0x0301, 0x0345],
    [0x03B7, 0x0314, 0x0301, 0x0345], [0x03B7, 0x0313, 0x0342, 0x0345],
    [0x03B7, 0x0314, 0x0342, 0x0345], [0x0397, 0x0313, 0x0345], [0x0397, 0x0314, 0x0345],
    [0x0397, 0x0313, 0x0300, 0x0345], [0x0397, 0x0314, 0x0300, 0x0345],
    [0x0397, 0x0313, 0x0301, 0x0345], [0x0397, 0x0314, 0x0301, 0x0345],
    [0x0397, 0x0313, 0x0342, 0x0345], [0x0397, 0x0314, 0x0342, 0x0345],
    [0x03C9, 0x0313, 0x0345], [0x03C9, 0x0314, 0x0345], [0x03C9, 0x0313, 0x0300, 0x0345],
    [0x03C9, 0x0314, 0x0300, 0x0345], [0x03C9, 0x0313, 0x0301, 0x0345],
    [0x03C9, 0x0314, 0x0301, 0x0345], [0x03C9, 0x0313, 0x0342, 0x0345],
    [0x03C9, 0x0314, 0x0342, 0x0345], [0x03A9, 0x0313, 0x0345], [0x03A9, 0x0314, 0x0345],
    [0x03A9, 0x0313, 0x0300, 0x0345], [0x03A9, 0x0314, 0x0300, 0x0345],
    [0x03A9, 0x0313, 0x0301, 0x0345], [0x03A9, 0x0314, 0x0301, 0x0345],
    [0x03A9, 0x0313, 0x0342, 0x0345], [0x03A9, 0x0314, 0x0342, 0x0345], [0x03B1, 0x0306],
    [0x03B1, 0x0304], [0x03B1, 0x0300, 0x0345], [0x03B1, 0x0345], [0x03B1, 0x0301, 0x0345]]⟩,
  ⟨0x1FB6, [
    [0x03B1, 0x0342], [0x03B1, 0x0342, 0x0345], [0x0391, 0x0306], [0x0391, 0x0304],
    [0x0391, 0x0300], [0x0391, 0x0301], [0x0391, 0x0345], [0x0020, 0x0313], [0x03B9],
    [0x0020, 0x0313], [0x0020, 0x0342], [0x0020, 0x0308, 0x0342], [0x03B7, 0x0300, 0x0345],
    [0x03B7, 0x0345], [0x03B7, 0x0301, 0x0345]]⟩,
  ⟨0x1FC6, [
    [0x03B7, 0x0342], [0x03B7, 0x0342, 0x0345], [0x0395, 0x0300], [0x0395, 0x0301],
    [0x0397, 0x0300], [0x0397, 0x0301], [0x0397, 0x0345], [0x0020, 0x0313, 0x0300],
    [0x0020, 0x0313, 0x0301], [0x0020, 0x0313, 0x0342], [0x03B9, 0x0306], [0x03B9, 0x0304],
    [0x03B9, 0x0308, 0x0300], [0x03B9, 0x0308, 0x0301]]⟩,
  ⟨0x1FD6, [
    [0x03B9, 0x0342], [0x03B9, 0x0308, 0x0342], [0x0399, 0x0306], [0x0399, 0x0304],
    [0x0399, 0x0300], [0x0399, 0x0301]]⟩,
  ⟨0x1FDD, [
    [0x0020, 0x0314, 0x0300], [0x0020, 0x0314, 0x0301], [0x0020, 0x0314, 0x0342],
    [0x03C5, 0x0306], [0x03C5, 0x0304], [0x03C5, 0x0308, 0x0300], [0x03C5, 0x0308, 0x0301],
    [0x03C1, 0x0313], [0x03C1, 0x0314], [0x03C5, 0x0342], [0x03C5, 0x0308, 0x0342],
    [0x03A5, 0x0306], [0x03A5, 0x0304], [0x03A5, 0x0300], [0x03A5, 0x0301], [0x03A1, 0x0314],
    [0x0020, 0x0308, 0x0300], [0x0020, 0x0308, 0x0301], [0x0060]]⟩]

/-- Characters from U+1FF2 to U+1FFE. -/
def alphabetsFrom1FF2 : List Block := [
  ⟨0x1FF2, [[0x03C9, 0x0300, 0x0345], [0x03C9, 0x0345], [0x03C9, 0x0301, 0x0345]]⟩,
  ⟨0x1FF6, [
    [0x03C9, 0x0342], [0x03C9, 0x0342, 0x0345], [0x039F, 0x0300], [0x039F, 0x0301],
    [0x03A9, 0x0300], [0x03A9, 0x0301], [0x03A9, 0x0345], [0x0020, 0x0301], [0x0020, 0x0314]]⟩]

/-- All blocks of this part, in ascending order. -/
def alphabets : List Block :=
  alphabetsFrom00A0 ++ alphabetsFrom0340 ++ alphabetsFrom1EA0 ++ alphabetsFrom1FF2

end Repricing.Text.Decomposition
