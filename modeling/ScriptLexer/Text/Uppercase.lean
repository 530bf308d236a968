import ScriptLexer.Text.CaseRun

set_option autoImplicit false

/-! # Upper case

The full upper-case mapping of Unicode 14. Most letters have a single upper-case letter and
are listed in runs; a few have several, such as the sharp s, whose upper case is `SS`. The
mapping looks at one character at a time, so it distributes over concatenation. -/

namespace ScriptLexer.Text

/-- The letters whose upper case is one other character. -/
def uppercaseRuns : List CaseRun := [
  ⟨0x0061, 0x007A, 1, 0x0041⟩, ⟨0x00B5, 0x00B5, 1, 0x039C⟩, ⟨0x00E0, 0x00F6, 1, 0x00C0⟩,
  ⟨0x00F8, 0x00FE, 1, 0x00D8⟩, ⟨0x00FF, 0x00FF, 1, 0x0178⟩, ⟨0x0101, 0x012F, 2, 0x0100⟩,
  ⟨0x0131, 0x0131, 1, 0x0049⟩, ⟨0x0133, 0x0137, 2, 0x0132⟩, ⟨0x013A, 0x0148, 2, 0x0139⟩,
  ⟨0x014B, 0x0177, 2, 0x014A⟩, ⟨0x017A, 0x017E, 2, 0x0179⟩, ⟨0x017F, 0x017F, 1, 0x0053⟩,
  ⟨0x0180, 0x0180, 1, 0x0243⟩, ⟨0x0183, 0x0185, 2, 0x0182⟩, ⟨0x0188, 0x0188, 1, 0x0187⟩,
  ⟨0x018C, 0x018C, 1, 0x018B⟩, ⟨0x0192, 0x0192, 1, 0x0191⟩, ⟨0x0195, 0x0195, 1, 0x01F6⟩,
  ⟨0x0199, 0x0199, 1, 0x0198⟩, ⟨0x019A, 0x019A, 1, 0x023D⟩, ⟨0x019E, 0x019E, 1, 0x0220⟩,
  ⟨0x01A1, 0x01A5, 2, 0x01A0⟩, ⟨0x01A8, 0x01A8, 1, 0x01A7⟩, ⟨0x01AD, 0x01AD, 1, 0x01AC⟩,
  ⟨0x01B0, 0x01B0, 1, 0x01AF⟩, ⟨0x01B4, 0x01B6, 2, 0x01B3⟩, ⟨0x01B9, 0x01B9, 1, 0x01B8⟩,
  ⟨0x01BD, 0x01BD, 1, 0x01BC⟩, ⟨0x01BF, 0x01BF, 1, 0x01F7⟩, ⟨0x01C5, 0x01C5, 1, 0x01C4⟩,
  ⟨0x01C6, 0x01C6, 1, 0x01C4⟩, ⟨0x01C8, 0x01C8, 1, 0x01C7⟩, ⟨0x01C9, 0x01C9, 1, 0x01C7⟩,
  ⟨0x01CB, 0x01CB, 1, 0x01CA⟩, ⟨0x01CC, 0x01CC, 1, 0x01CA⟩, ⟨0x01CE, 0x01DC, 2, 0x01CD⟩,
  ⟨0x01DD, 0x01DD, 1, 0x018E⟩, ⟨0x01DF, 0x01EF, 2, 0x01DE⟩, ⟨0x01F2, 0x01F2, 1, 0x01F1⟩,
  ⟨0x01F3, 0x01F3, 1, 0x01F1⟩, ⟨0x01F5, 0x01F5, 1, 0x01F4⟩, ⟨0x01F9, 0x021F, 2, 0x01F8⟩,
  ⟨0x0223, 0x0233, 2, 0x0222⟩, ⟨0x023C, 0x023C, 1, 0x023B⟩, ⟨0x023F, 0x0240, 1, 0x2C7E⟩,
  ⟨0x0242, 0x0242, 1, 0x0241⟩, ⟨0x0247, 0x024F, 2, 0x0246⟩, ⟨0x0250, 0x0250, 1, 0x2C6F⟩,
  ⟨0x0251, 0x0251, 1, 0x2C6D⟩, ⟨0x0252, 0x0252, 1, 0x2C70⟩, ⟨0x0253, 0x0253, 1, 0x0181⟩,
  ⟨0x0254, 0x0254, 1, 0x0186⟩, ⟨0x0256, 0x0257, 1, 0x0189⟩, ⟨0x0259, 0x0259, 1, 0x018F⟩,
  ⟨0x025B, 0x025B, 1, 0x0190⟩, ⟨0x025C, 0x025C, 1, 0xA7AB⟩, ⟨0x0260, 0x0260, 1, 0x0193⟩,
  ⟨0x0261, 0x0261, 1, 0xA7AC⟩, ⟨0x0263, 0x0263, 1, 0x0194⟩, ⟨0x0265, 0x0265, 1, 0xA78D⟩,
  ⟨0x0266, 0x0266, 1, 0xA7AA⟩, ⟨0x0268, 0x0268, 1, 0x0197⟩, ⟨0x0269, 0x0269, 1, 0x0196⟩,
  ⟨0x026A, 0x026A, 1, 0xA7AE⟩, ⟨0x026B, 0x026B, 1, 0x2C62⟩, ⟨0x026C, 0x026C, 1, 0xA7AD⟩,
  ⟨0x026F, 0x026F, 1, 0x019C⟩, ⟨0x0271, 0x0271, 1, 0x2C6E⟩, ⟨0x0272, 0x0272, 1, 0x019D⟩,
  ⟨0x0275, 0x0275, 1, 0x019F⟩, ⟨0x027D, 0x027D, 1, 0x2C64⟩, ⟨0x0280, 0x0280, 1, 0x01A6⟩,
  ⟨0x0282, 0x0282, 1, 0xA7C5⟩, ⟨0x0283, 0x0283, 1, 0x01A9⟩, ⟨0x0287, 0x0287, 1, 0xA7B1⟩,
  ⟨0x0288, 0x0288, 1, 0x01AE⟩, ⟨0x0289, 0x0289, 1, 0x0244⟩, ⟨0x028A, 0x028B, 1, 0x01B1⟩,
  ⟨0x028C, 0x028C, 1, 0x0245⟩, ⟨0x0292, 0x0292, 1, 0x01B7⟩, ⟨0x029D, 0x029D, 1, 0xA7B2⟩,
  ⟨0x029E, 0x029E, 1, 0xA7B0⟩, ⟨0x0345, 0x0345, 1, 0x0399⟩, ⟨0x0371, 0x0373, 2, 0x0370⟩,
  ⟨0x0377, 0x0377, 1, 0x0376⟩, ⟨0x037B, 0x037D, 1, 0x03FD⟩, ⟨0x03AC, 0x03AC, 1, 0x0386⟩,
  ⟨0x03AD, 0x03AF, 1, 0x0388⟩, ⟨0x03B1, 0x03C1, 1, 0x0391⟩, ⟨0x03C2, 0x03C2, 1, 0x03A3⟩,
  ⟨0x03C3, 0x03CB, 1, 0x03A3⟩, ⟨0x03CC, 0x03CC, 1, 0x038C⟩, ⟨0x03CD, 0x03CE, 1, 0x038E⟩,
  ⟨0x03D0, 0x03D0, 1, 0x0392⟩, ⟨0x03D1, 0x03D1, 1, 0x0398⟩, ⟨0x03D5, 0x03D5, 1, 0x03A6⟩,
  ⟨0x03D6, 0x03D6, 1, 0x03A0⟩, ⟨0x03D7, 0x03D7, 1, 0x03CF⟩, ⟨0x03D9, 0x03EF, 2, 0x03D8⟩,
  ⟨0x03F0, 0x03F0, 1, 0x039A⟩, ⟨0x03F1, 0x03F1, 1, 0x03A1⟩, ⟨0x03F2, 0x03F2, 1, 0x03F9⟩,
  ⟨0x03F3, 0x03F3, 1, 0x037F⟩, ⟨0x03F5, 0x03F5, 1, 0x0395⟩, ⟨0x03F8, 0x03F8, 1, 0x03F7⟩,
  ⟨0x03FB, 0x03FB, 1, 0x03FA⟩, ⟨0x0430, 0x044F, 1, 0x0410⟩, ⟨0x0450, 0x045F, 1, 0x0400⟩,
  ⟨0x0461, 0x0481, 2, 0x0460⟩, ⟨0x048B, 0x04BF, 2, 0x048A⟩, ⟨0x04C2, 0x04CE, 2, 0x04C1⟩,
  ⟨0x04CF, 0x04CF, 1, 0x04C0⟩, ⟨0x04D1, 0x052F, 2, 0x04D0⟩, ⟨0x0561, 0x0586, 1, 0x0531⟩,
  ⟨0x10D0, 0x10FA, 1, 0x1C90⟩, ⟨0x10FD, 0x10FF, 1, 0x1CBD⟩, ⟨0x13F8, 0x13FD, 1, 0x13F0⟩,
  ⟨0x1C80, 0x1C80, 1, 0x0412⟩, ⟨0x1C81, 0x1C81, 1, 0x0414⟩, ⟨0x1C82, 0x1C82, 1, 0x041E⟩,
  ⟨0x1C83, 0x1C84, 1, 0x0421⟩, ⟨0x1C85, 0x1C85, 1, 0x0422⟩, ⟨0x1C86, 0x1C86, 1, 0x042A⟩,
  ⟨0x1C87, 0x1C87, 1, 0x0462⟩, ⟨0x1C88, 0x1C88, 1, 0xA64A⟩, ⟨0x1D79, 0x1D79, 1, 0xA77D⟩,
  ⟨0x1D7D, 0x1D7D, 1, 0x2C63⟩, ⟨0x1D8E, 0x1D8E, 1, 0xA7C6⟩, ⟨0x1E01, 0x1E95, 2, 0x1E00⟩,
  ⟨0x1E9B, 0x1E9B, 1, 0x1E60⟩, ⟨0x1EA1, 0x1EFF, 2, 0x1EA0⟩, ⟨0x1F00, 0x1F07, 1, 0x1F08⟩,
  ⟨0x1F10, 0x1F15, 1, 0x1F18⟩, ⟨0x1F20, 0x1F27, 1, 0x1F28⟩, ⟨0x1F30, 0x1F37, 1, 0x1F38⟩,
  ⟨0x1F40, 0x1F45, 1, 0x1F48⟩, ⟨0x1F51, 0x1F57, 2, 0x1F59⟩, ⟨0x1F60, 0x1F67, 1, 0x1F68⟩,
  ⟨0x1F70, 0x1F71, 1, 0x1FBA⟩, ⟨0x1F72, 0x1F75, 1, 0x1FC8⟩, ⟨0x1F76, 0x1F77, 1, 0x1FDA⟩,
  ⟨0x1F78, 0x1F79, 1, 0x1FF8⟩, ⟨0x1F7A, 0x1F7B, 1, 0x1FEA⟩, ⟨0x1F7C, 0x1F7D, 1, 0x1FFA⟩,
  ⟨0x1FB0, 0x1FB1, 1, 0x1FB8⟩, ⟨0x1FBE, 0x1FBE, 1, 0x0399⟩, ⟨0x1FD0, 0x1FD1, 1, 0x1FD8⟩,
  ⟨0x1FE0, 0x1FE1, 1, 0x1FE8⟩, ⟨0x1FE5, 0x1FE5, 1, 0x1FEC⟩, ⟨0x214E, 0x214E, 1, 0x2132⟩,
  ⟨0x2170, 0x217F, 1, 0x2160⟩, ⟨0x2184, 0x2184, 1, 0x2183⟩, ⟨0x24D0, 0x24E9, 1, 0x24B6⟩,
  ⟨0x2C30, 0x2C5F, 1, 0x2C00⟩, ⟨0x2C61, 0x2C61, 1, 0x2C60⟩, ⟨0x2C65, 0x2C65, 1, 0x023A⟩,
  ⟨0x2C66, 0x2C66, 1, 0x023E⟩, ⟨0x2C68, 0x2C6C, 2, 0x2C67⟩, ⟨0x2C73, 0x2C73, 1, 0x2C72⟩,
  ⟨0x2C76, 0x2C76, 1, 0x2C75⟩, ⟨0x2C81, 0x2CE3, 2, 0x2C80⟩, ⟨0x2CEC, 0x2CEE, 2, 0x2CEB⟩,
  ⟨0x2CF3, 0x2CF3, 1, 0x2CF2⟩, ⟨0x2D00, 0x2D25, 1, 0x10A0⟩, ⟨0x2D27, 0x2D27, 1, 0x10C7⟩,
  ⟨0x2D2D, 0x2D2D, 1, 0x10CD⟩, ⟨0xA641, 0xA66D, 2, 0xA640⟩, ⟨0xA681, 0xA69B, 2, 0xA680⟩,
  ⟨0xA723, 0xA72F, 2, 0xA722⟩, ⟨0xA733, 0xA76F, 2, 0xA732⟩, ⟨0xA77A, 0xA77C, 2, 0xA779⟩,
  ⟨0xA77F, 0xA787, 2, 0xA77E⟩, ⟨0xA78C, 0xA78C, 1, 0xA78B⟩, ⟨0xA791, 0xA793, 2, 0xA790⟩,
  ⟨0xA794, 0xA794, 1, 0xA7C4⟩, ⟨0xA797, 0xA7A9, 2, 0xA796⟩, ⟨0xA7B5, 0xA7C3, 2, 0xA7B4⟩,
  ⟨0xA7C8, 0xA7CA, 2, 0xA7C7⟩, ⟨0xA7D1, 0xA7D1, 1, 0xA7D0⟩, ⟨0xA7D7, 0xA7D9, 2, 0xA7D6⟩,
  ⟨0xA7F6, 0xA7F6, 1, 0xA7F5⟩, ⟨0xAB53, 0xAB53, 1, 0xA7B3⟩, ⟨0xAB70, 0xABBF, 1, 0x13A0⟩,
  ⟨0xFF41, 0xFF5A, 1, 0xFF21⟩, ⟨0x10428, 0x1044F, 1, 0x10400⟩, ⟨0x104D8, 0x104FB, 1, 0x104B0⟩,
  ⟨0x10597, 0x105A1, 1, 0x10570⟩, ⟨0x105A3, 0x105B1, 1, 0x1057C⟩, ⟨0x105B3, 0x105B9, 1, 0x1058C⟩,
  ⟨0x105BB, 0x105BC, 1, 0x10594⟩, ⟨0x10CC0, 0x10CF2, 1, 0x10C80⟩, ⟨0x118C0, 0x118DF, 1, 0x118A0⟩,
  ⟨0x16E60, 0x16E7F, 1, 0x16E40⟩, ⟨0x1E922, 0x1E943, 1, 0x1E900⟩]

/-- The letters whose upper case is several characters, each with that upper case. -/
def uppercaseExpansions : List (Char × Text) := [
  ('\u00df', ['\u0053', '\u0053']), ('\u0149', ['\u02bc', '\u004e']),
  ('\u01f0', ['\u004a', '\u030c']), ('\u0390', ['\u0399', '\u0308', '\u0301']),
  ('\u03b0', ['\u03a5', '\u0308', '\u0301']), ('\u0587', ['\u0535', '\u0552']),
  ('\u1e96', ['\u0048', '\u0331']), ('\u1e97', ['\u0054', '\u0308']),
  ('\u1e98', ['\u0057', '\u030a']), ('\u1e99', ['\u0059', '\u030a']),
  ('\u1e9a', ['\u0041', '\u02be']), ('\u1f50', ['\u03a5', '\u0313']),
  ('\u1f52', ['\u03a5', '\u0313', '\u0300']), ('\u1f54', ['\u03a5', '\u0313', '\u0301']),
  ('\u1f56', ['\u03a5', '\u0313', '\u0342']), ('\u1f80', ['\u1f08', '\u0399']),
  ('\u1f81', ['\u1f09', '\u0399']), ('\u1f82', ['\u1f0a', '\u0399']),
  ('\u1f83', ['\u1f0b', '\u0399']), ('\u1f84', ['\u1f0c', '\u0399']),
  ('\u1f85', ['\u1f0d', '\u0399']), ('\u1f86', ['\u1f0e', '\u0399']),
  ('\u1f87', ['\u1f0f', '\u0399']), ('\u1f88', ['\u1f08', '\u0399']),
  ('\u1f89', ['\u1f09', '\u0399']), ('\u1f8a', ['\u1f0a', '\u0399']),
  ('\u1f8b', ['\u1f0b', '\u0399']), ('\u1f8c', ['\u1f0c', '\u0399']),
  ('\u1f8d', ['\u1f0d', '\u0399']), ('\u1f8e', ['\u1f0e', '\u0399']),
  ('\u1f8f', ['\u1f0f', '\u0399']), ('\u1f90', ['\u1f28', '\u0399']),
  ('\u1f91', ['\u1f29', '\u0399']), ('\u1f92', ['\u1f2a', '\u0399']),
  ('\u1f93', ['\u1f2b', '\u0399']), ('\u1f94', ['\u1f2c', '\u0399']),
  ('\u1f95', ['\u1f2d', '\u0399']), ('\u1f96', ['\u1f2e', '\u0399']),
  ('\u1f97', ['\u1f2f', '\u0399']), ('\u1f98', ['\u1f28', '\u0399']),
  ('\u1f99', ['\u1f29', '\u0399']), ('\u1f9a', ['\u1f2a', '\u0399']),
  ('\u1f9b', ['\u1f2b', '\u0399']), ('\u1f9c', ['\u1f2c', '\u0399']),
  ('\u1f9d', ['\u1f2d', '\u0399']), ('\u1f9e', ['\u1f2e', '\u0399']),
  ('\u1f9f', ['\u1f2f', '\u0399']), ('\u1fa0', ['\u1f68', '\u0399']),
  ('\u1fa1', ['\u1f69', '\u0399']), ('\u1fa2', ['\u1f6a', '\u0399']),
  ('\u1fa3', ['\u1f6b', '\u0399']), ('\u1fa4', ['\u1f6c', '\u0399']),
  ('\u1fa5', ['\u1f6d', '\u0399']), ('\u1fa6', ['\u1f6e', '\u0399']),
  ('\u1fa7', ['\u1f6f', '\u0399']), ('\u1fa8', ['\u1f68', '\u0399']),
  ('\u1fa9', ['\u1f69', '\u0399']), ('\u1faa', ['\u1f6a', '\u0399']),
  ('\u1fab', ['\u1f6b', '\u0399']), ('\u1fac', ['\u1f6c', '\u0399']),
  ('\u1fad', ['\u1f6d', '\u0399']), ('\u1fae', ['\u1f6e', '\u0399']),
  ('\u1faf', ['\u1f6f', '\u0399']), ('\u1fb2', ['\u1fba', '\u0399']),
  ('\u1fb3', ['\u0391', '\u0399']), ('\u1fb4', ['\u0386', '\u0399']),
  ('\u1fb6', ['\u0391', '\u0342']), ('\u1fb7', ['\u0391', '\u0342', '\u0399']),
  ('\u1fbc', ['\u0391', '\u0399']), ('\u1fc2', ['\u1fca', '\u0399']),
  ('\u1fc3', ['\u0397', '\u0399']), ('\u1fc4', ['\u0389', '\u0399']),
  ('\u1fc6', ['\u0397', '\u0342']), ('\u1fc7', ['\u0397', '\u0342', '\u0399']),
  ('\u1fcc', ['\u0397', '\u0399']), ('\u1fd2', ['\u0399', '\u0308', '\u0300']),
  ('\u1fd3', ['\u0399', '\u0308', '\u0301']), ('\u1fd6', ['\u0399', '\u0342']),
  ('\u1fd7', ['\u0399', '\u0308', '\u0342']), ('\u1fe2', ['\u03a5', '\u0308', '\u0300']),
  ('\u1fe3', ['\u03a5', '\u0308', '\u0301']), ('\u1fe4', ['\u03a1', '\u0313']),
  ('\u1fe6', ['\u03a5', '\u0342']), ('\u1fe7', ['\u03a5', '\u0308', '\u0342']),
  ('\u1ff2', ['\u1ffa', '\u0399']), ('\u1ff3', ['\u03a9', '\u0399']),
  ('\u1ff4', ['\u038f', '\u0399']), ('\u1ff6', ['\u03a9', '\u0342']),
  ('\u1ff7', ['\u03a9', '\u0342', '\u0399']), ('\u1ffc', ['\u03a9', '\u0399']),
  ('\ufb00', ['\u0046', '\u0046']), ('\ufb01', ['\u0046', '\u0049']),
  ('\ufb02', ['\u0046', '\u004c']), ('\ufb03', ['\u0046', '\u0046', '\u0049']),
  ('\ufb04', ['\u0046', '\u0046', '\u004c']), ('\ufb05', ['\u0053', '\u0054']),
  ('\ufb06', ['\u0053', '\u0054']), ('\ufb13', ['\u0544', '\u0546']),
  ('\ufb14', ['\u0544', '\u0535']), ('\ufb15', ['\u0544', '\u053b']),
  ('\ufb16', ['\u054e', '\u0546']), ('\ufb17', ['\u0544', '\u053d'])]

/-- The upper case of one character; a character without one stays as it is. -/
def uppercaseChar (c : Char) : Text :=
  match uppercaseExpansions.lookup c with
  | some expansion => expansion
  | none => [(CaseRun.lookup uppercaseRuns c).getD c]

/-- The upper case of a text, character by character. -/
def uppercase (text : Text) : Text := text.flatMap uppercaseChar

end ScriptLexer.Text
