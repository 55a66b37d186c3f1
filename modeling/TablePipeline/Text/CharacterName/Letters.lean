import TablePipeline.Text.CharacterName.Run

/-!
Names of letters and of the signs that go with them, script by script, and those of ASCII.
-/
namespace TablePipeline.Text

/-- ASCII, and the Latin letters with the signs that go with them. -/
def latinNames : List NameRun := [
  ⟨0x20, "", "SPACE;EXCLAMATION MARK;QUOTATION MARK;NUMBER SIGN;DOLLAR SIGN;PERCENT SIGN"⟩,
  ⟨0x26, "", "AMPERSAND;APOSTROPHE;LEFT PARENTHESIS;RIGHT PARENTHESIS;ASTERISK;PLUS SIGN"⟩,
  ⟨0x2C, "", "COMMA;HYPHEN-MINUS;FULL STOP;SOLIDUS;DIGIT ZERO;DIGIT ONE;DIGIT TWO;DIGIT THREE"⟩,
  ⟨0x34, "", "DIGIT FOUR;DIGIT FIVE;DIGIT SIX;DIGIT SEVEN;DIGIT EIGHT;DIGIT NINE;COLON"⟩,
  ⟨0x3B, "", "SEMICOLON;LESS-THAN SIGN;EQUALS SIGN;GREATER-THAN SIGN;QUESTION MARK;COMMERCIAL AT"⟩,
  ⟨0x41, "LATIN CAPITAL LETTER ", "A;B;C;D;E;F;G;H;I;J;K;L;M;N;O;P;Q;R;S;T;U;V;W;X"⟩,
  ⟨0x59, "", "LATIN CAPITAL LETTER Y;LATIN CAPITAL LETTER Z;LEFT SQUARE BRACKET"⟩,
  ⟨0x5C, "", "REVERSE SOLIDUS;RIGHT SQUARE BRACKET;CIRCUMFLEX ACCENT;LOW LINE;GRAVE ACCENT"⟩,
  ⟨0x61, "LATIN SMALL LETTER ", "A;B;C;D;E;F;G;H;I;J;K;L;M;N;O;P;Q;R;S;T;U;V;W;X;Y"⟩,
  ⟨0x7A, "", "LATIN SMALL LETTER Z;LEFT CURLY BRACKET;VERTICAL LINE;RIGHT CURLY BRACKET;TILDE"⟩,
  ⟨0xA0, "", "NO-BREAK SPACE;INVERTED EXCLAMATION MARK"⟩,
  ⟨0xA2, "", "CENT SIGN;POUND SIGN;CURRENCY SIGN;YEN SIGN;BROKEN BAR;SECTION SIGN;DIAERESIS"⟩,
  ⟨0xA9, "", "COPYRIGHT SIGN;FEMININE ORDINAL INDICATOR;LEFT-POINTING DOUBLE ANGLE QUOTATION MARK"⟩,
  ⟨0xAC, "", "NOT SIGN;SOFT HYPHEN;REGISTERED SIGN;MACRON;DEGREE SIGN"⟩,
  ⟨0xB1, "", "PLUS-MINUS SIGN;SUPERSCRIPT TWO;SUPERSCRIPT THREE;ACUTE ACCENT;MICRO SIGN"⟩,
  ⟨0xB6, "", "PILCROW SIGN;MIDDLE DOT;CEDILLA;SUPERSCRIPT ONE;MASCULINE ORDINAL INDICATOR"⟩,
  ⟨0xBB, "", "RIGHT-POINTING DOUBLE ANGLE QUOTATION MARK;VULGAR FRACTION ONE QUARTER"⟩,
  ⟨0xBD, "", "VULGAR FRACTION ONE HALF;VULGAR FRACTION THREE QUARTERS;INVERTED QUESTION MARK"⟩,
  ⟨0xC0, "LATIN CAPITAL LETTER A WITH ", "GRAVE;ACUTE;CIRCUMFLEX;TILDE;DIAERESIS"⟩,
  ⟨0xC5, "LATIN CAPITAL LETTER ", "A WITH RING ABOVE;AE;C WITH CEDILLA;E WITH GRAVE;E WITH ACUTE"⟩,
  ⟨0xCA, "LATIN CAPITAL LETTER ", "E WITH CIRCUMFLEX;E WITH DIAERESIS;I WITH GRAVE;I WITH ACUTE"⟩,
  ⟨0xCE, "LATIN CAPITAL LETTER ", "I WITH CIRCUMFLEX;I WITH DIAERESIS;ETH;N WITH TILDE"⟩,
  ⟨0xD2, "LATIN CAPITAL LETTER O WITH ", "GRAVE;ACUTE;CIRCUMFLEX;TILDE"⟩,
  ⟨0xD6, "", "LATIN CAPITAL LETTER O WITH DIAERESIS;MULTIPLICATION SIGN"⟩,
  ⟨0xD8, "LATIN CAPITAL LETTER ", "O WITH STROKE;U WITH GRAVE;U WITH ACUTE"⟩,
  ⟨0xDB, "LATIN CAPITAL LETTER ", "U WITH CIRCUMFLEX;U WITH DIAERESIS;Y WITH ACUTE;THORN"⟩,
  ⟨0xDF, "LATIN SMALL LETTER ", "SHARP S;A WITH GRAVE;A WITH ACUTE;A WITH CIRCUMFLEX;A WITH TILDE"⟩,
  ⟨0xE4, "LATIN SMALL LETTER ", "A WITH DIAERESIS;A WITH RING ABOVE;AE;C WITH CEDILLA"⟩,
  ⟨0xE8, "LATIN SMALL LETTER E WITH ", "GRAVE;ACUTE;CIRCUMFLEX;DIAERESIS"⟩,
  ⟨0xEC, "LATIN SMALL LETTER I WITH ", "GRAVE;ACUTE;CIRCUMFLEX;DIAERESIS"⟩,
  ⟨0xF0, "LATIN SMALL LETTER ", "ETH;N WITH TILDE;O WITH GRAVE;O WITH ACUTE;O WITH CIRCUMFLEX"⟩,
  ⟨0xF5, "", "LATIN SMALL LETTER O WITH TILDE;LATIN SMALL LETTER O WITH DIAERESIS;DIVISION SIGN"⟩,
  ⟨0xF8, "LATIN SMALL LETTER ", "O WITH STROKE;U WITH GRAVE;U WITH ACUTE;U WITH CIRCUMFLEX"⟩,
  ⟨0xFC, "LATIN SMALL LETTER ", "U WITH DIAERESIS;Y WITH ACUTE;THORN;Y WITH DIAERESIS"⟩,
  ⟨0x100, "LATIN ", "CAPITAL LETTER A WITH MACRON;SMALL LETTER A WITH MACRON"⟩,
  ⟨0x102, "LATIN ", "CAPITAL LETTER A WITH BREVE;SMALL LETTER A WITH BREVE"⟩,
  ⟨0x104, "LATIN ", "CAPITAL LETTER A WITH OGONEK;SMALL LETTER A WITH OGONEK"⟩,
  ⟨0x106, "LATIN ", "CAPITAL LETTER C WITH ACUTE;SMALL LETTER C WITH ACUTE"⟩,
  ⟨0x108, "LATIN ", "CAPITAL LETTER C WITH CIRCUMFLEX;SMALL LETTER C WITH CIRCUMFLEX"⟩,
  ⟨0x10A, "LATIN ", "CAPITAL LETTER C WITH DOT ABOVE;SMALL LETTER C WITH DOT ABOVE"⟩,
  ⟨0x10C, "LATIN ", "CAPITAL LETTER C WITH CARON;SMALL LETTER C WITH CARON"⟩,
  ⟨0x10E, "LATIN ", "CAPITAL LETTER D WITH CARON;SMALL LETTER D WITH CARON"⟩,
  ⟨0x110, "LATIN ", "CAPITAL LETTER D WITH STROKE;SMALL LETTER D WITH STROKE"⟩,
  ⟨0x112, "LATIN ", "CAPITAL LETTER E WITH MACRON;SMALL LETTER E WITH MACRON"⟩,
  ⟨0x114, "LATIN ", "CAPITAL LETTER E WITH BREVE;SMALL LETTER E WITH BREVE"⟩,
  ⟨0x116, "LATIN ", "CAPITAL LETTER E WITH DOT ABOVE;SMALL LETTER E WITH DOT ABOVE"⟩,
  ⟨0x118, "LATIN ", "CAPITAL LETTER E WITH OGONEK;SMALL LETTER E WITH OGONEK"⟩,
  ⟨0x11A, "LATIN ", "CAPITAL LETTER E WITH CARON;SMALL LETTER E WITH CARON"⟩,
  ⟨0x11C, "LATIN ", "CAPITAL LETTER G WITH CIRCUMFLEX;SMALL LETTER G WITH CIRCUMFLEX"⟩,
  ⟨0x11E, "LATIN ", "CAPITAL LETTER G WITH BREVE;SMALL LETTER G WITH BREVE"⟩,
  ⟨0x120, "LATIN ", "CAPITAL LETTER G WITH DOT ABOVE;SMALL LETTER G WITH DOT ABOVE"⟩,
  ⟨0x122, "LATIN ", "CAPITAL LETTER G WITH CEDILLA;SMALL LETTER G WITH CEDILLA"⟩,
  ⟨0x124, "LATIN ", "CAPITAL LETTER H WITH CIRCUMFLEX;SMALL LETTER H WITH CIRCUMFLEX"⟩,
  ⟨0x126, "LATIN ", "CAPITAL LETTER H WITH STROKE;SMALL LETTER H WITH STROKE"⟩,
  ⟨0x128, "LATIN ", "CAPITAL LETTER I WITH TILDE;SMALL LETTER I WITH TILDE"⟩,
  ⟨0x12A, "LATIN ", "CAPITAL LETTER I WITH MACRON;SMALL LETTER I WITH MACRON"⟩,
  ⟨0x12C, "LATIN ", "CAPITAL LETTER I WITH BREVE;SMALL LETTER I WITH BREVE"⟩,
  ⟨0x12E, "LATIN ", "CAPITAL LETTER I WITH OGONEK;SMALL LETTER I WITH OGONEK"⟩,
  ⟨0x130, "LATIN ", "CAPITAL LETTER I WITH DOT ABOVE;SMALL LETTER DOTLESS I"⟩,
  ⟨0x132, "LATIN ", "CAPITAL LIGATURE IJ;SMALL LIGATURE IJ;CAPITAL LETTER J WITH CIRCUMFLEX"⟩,
  ⟨0x135, "LATIN ", "SMALL LETTER J WITH CIRCUMFLEX;CAPITAL LETTER K WITH CEDILLA"⟩,
  ⟨0x137, "LATIN ", "SMALL LETTER K WITH CEDILLA;SMALL LETTER KRA;CAPITAL LETTER L WITH ACUTE"⟩,
  ⟨0x13A, "LATIN ", "SMALL LETTER L WITH ACUTE;CAPITAL LETTER L WITH CEDILLA"⟩,
  ⟨0x13C, "LATIN ", "SMALL LETTER L WITH CEDILLA;CAPITAL LETTER L WITH CARON"⟩,
  ⟨0x13E, "LATIN ", "SMALL LETTER L WITH CARON;CAPITAL LETTER L WITH MIDDLE DOT"⟩,
  ⟨0x140, "LATIN ", "SMALL LETTER L WITH MIDDLE DOT;CAPITAL LETTER L WITH STROKE"⟩,
  ⟨0x142, "LATIN ", "SMALL LETTER L WITH STROKE;CAPITAL LETTER N WITH ACUTE"⟩,
  ⟨0x144, "LATIN ", "SMALL LETTER N WITH ACUTE;CAPITAL LETTER N WITH CEDILLA"⟩,
  ⟨0x146, "LATIN ", "SMALL LETTER N WITH CEDILLA;CAPITAL LETTER N WITH CARON"⟩,
  ⟨0x148, "LATIN SMALL LETTER N ", "WITH CARON;PRECEDED BY APOSTROPHE"⟩,
  ⟨0x14A, "LATIN ", "CAPITAL LETTER ENG;SMALL LETTER ENG;CAPITAL LETTER O WITH MACRON"⟩,
  ⟨0x14D, "LATIN ", "SMALL LETTER O WITH MACRON;CAPITAL LETTER O WITH BREVE"⟩,
  ⟨0x14F, "LATIN ", "SMALL LETTER O WITH BREVE;CAPITAL LETTER O WITH DOUBLE ACUTE"⟩,
  ⟨0x151, "LATIN ", "SMALL LETTER O WITH DOUBLE ACUTE;CAPITAL LIGATURE OE"⟩,
  ⟨0x153, "LATIN ", "SMALL LIGATURE OE;CAPITAL LETTER R WITH ACUTE;SMALL LETTER R WITH ACUTE"⟩,
  ⟨0x156, "LATIN ", "CAPITAL LETTER R WITH CEDILLA;SMALL LETTER R WITH CEDILLA"⟩,
  ⟨0x158, "LATIN ", "CAPITAL LETTER R WITH CARON;SMALL LETTER R WITH CARON"⟩,
  ⟨0x15A, "LATIN ", "CAPITAL LETTER S WITH ACUTE;SMALL LETTER S WITH ACUTE"⟩,
  ⟨0x15C, "LATIN ", "CAPITAL LETTER S WITH CIRCUMFLEX;SMALL LETTER S WITH CIRCUMFLEX"⟩,
  ⟨0x15E, "LATIN ", "CAPITAL LETTER S WITH CEDILLA;SMALL LETTER S WITH CEDILLA"⟩,
  ⟨0x160, "LATIN ", "CAPITAL LETTER S WITH CARON;SMALL LETTER S WITH CARON"⟩,
  ⟨0x162, "LATIN ", "CAPITAL LETTER T WITH CEDILLA;SMALL LETTER T WITH CEDILLA"⟩,
  ⟨0x164, "LATIN ", "CAPITAL LETTER T WITH CARON;SMALL LETTER T WITH CARON"⟩,
  ⟨0x166, "LATIN ", "CAPITAL LETTER T WITH STROKE;SMALL LETTER T WITH STROKE"⟩,
  ⟨0x168, "LATIN ", "CAPITAL LETTER U WITH TILDE;SMALL LETTER U WITH TILDE"⟩,
  ⟨0x16A, "LATIN ", "CAPITAL LETTER U WITH MACRON;SMALL LETTER U WITH MACRON"⟩,
  ⟨0x16C, "LATIN ", "CAPITAL LETTER U WITH BREVE;SMALL LETTER U WITH BREVE"⟩,
  ⟨0x16E, "LATIN ", "CAPITAL LETTER U WITH RING ABOVE;SMALL LETTER U WITH RING ABOVE"⟩,
  ⟨0x170, "LATIN ", "CAPITAL LETTER U WITH DOUBLE ACUTE;SMALL LETTER U WITH DOUBLE ACUTE"⟩,
  ⟨0x172, "LATIN ", "CAPITAL LETTER U WITH OGONEK;SMALL LETTER U WITH OGONEK"⟩,
  ⟨0x174, "LATIN ", "CAPITAL LETTER W WITH CIRCUMFLEX;SMALL LETTER W WITH CIRCUMFLEX"⟩,
  ⟨0x176, "LATIN ", "CAPITAL LETTER Y WITH CIRCUMFLEX;SMALL LETTER Y WITH CIRCUMFLEX"⟩,
  ⟨0x178, "LATIN CAPITAL LETTER ", "Y WITH DIAERESIS;Z WITH ACUTE"⟩,
  ⟨0x17A, "LATIN ", "SMALL LETTER Z WITH ACUTE;CAPITAL LETTER Z WITH DOT ABOVE"⟩,
  ⟨0x17C, "LATIN ", "SMALL LETTER Z WITH DOT ABOVE;CAPITAL LETTER Z WITH CARON"⟩,
  ⟨0x17E, "LATIN SMALL LETTER ", "Z WITH CARON;LONG S;B WITH STROKE"⟩,
  ⟨0x181, "LATIN CAPITAL LETTER B WITH ", "HOOK;TOPBAR"⟩,
  ⟨0x183, "LATIN ", "SMALL LETTER B WITH TOPBAR;CAPITAL LETTER TONE SIX"⟩,
  ⟨0x185, "LATIN ", "SMALL LETTER TONE SIX;CAPITAL LETTER OPEN O;CAPITAL LETTER C WITH HOOK"⟩,
  ⟨0x188, "LATIN ", "SMALL LETTER C WITH HOOK;CAPITAL LETTER AFRICAN D;CAPITAL LETTER D WITH HOOK"⟩,
  ⟨0x18B, "LATIN ", "CAPITAL LETTER D WITH TOPBAR;SMALL LETTER D WITH TOPBAR"⟩,
  ⟨0x18D, "LATIN ", "SMALL LETTER TURNED DELTA;CAPITAL LETTER REVERSED E;CAPITAL LETTER SCHWA"⟩,
  ⟨0x190, "LATIN ", "CAPITAL LETTER OPEN E;CAPITAL LETTER F WITH HOOK;SMALL LETTER F WITH HOOK"⟩,
  ⟨0x193, "LATIN ", "CAPITAL LETTER G WITH HOOK;CAPITAL LETTER GAMMA;SMALL LETTER HV"⟩,
  ⟨0x196, "LATIN CAPITAL LETTER ", "IOTA;I WITH STROKE;K WITH HOOK"⟩,
  ⟨0x199, "LATIN SMALL LETTER ", "K WITH HOOK;L WITH BAR;LAMBDA WITH STROKE"⟩,
  ⟨0x19C, "LATIN CAPITAL LETTER ", "TURNED M;N WITH LEFT HOOK"⟩,
  ⟨0x19E, "LATIN ", "SMALL LETTER N WITH LONG RIGHT LEG;CAPITAL LETTER O WITH MIDDLE TILDE"⟩,
  ⟨0x1A0, "LATIN ", "CAPITAL LETTER O WITH HORN;SMALL LETTER O WITH HORN"⟩,
  ⟨0x1A2, "LATIN ", "CAPITAL LETTER OI;SMALL LETTER OI;CAPITAL LETTER P WITH HOOK"⟩,
  ⟨0x1A5, "LATIN ", "SMALL LETTER P WITH HOOK;LETTER YR;CAPITAL LETTER TONE TWO"⟩,
  ⟨0x1A8, "LATIN ", "SMALL LETTER TONE TWO;CAPITAL LETTER ESH;LETTER REVERSED ESH LOOP"⟩,
  ⟨0x1AB, "LATIN ", "SMALL LETTER T WITH PALATAL HOOK;CAPITAL LETTER T WITH HOOK"⟩,
  ⟨0x1AD, "LATIN ", "SMALL LETTER T WITH HOOK;CAPITAL LETTER T WITH RETROFLEX HOOK"⟩,
  ⟨0x1AF, "LATIN ", "CAPITAL LETTER U WITH HORN;SMALL LETTER U WITH HORN"⟩,
  ⟨0x1B1, "LATIN CAPITAL LETTER ", "UPSILON;V WITH HOOK;Y WITH HOOK"⟩,
  ⟨0x1B4, "LATIN ", "SMALL LETTER Y WITH HOOK;CAPITAL LETTER Z WITH STROKE"⟩,
  ⟨0x1B6, "LATIN ", "SMALL LETTER Z WITH STROKE;CAPITAL LETTER EZH;CAPITAL LETTER EZH REVERSED"⟩,
  ⟨0x1B9, "LATIN SMALL LETTER EZH ", "REVERSED;WITH TAIL"⟩,
  ⟨0x1BB, "LATIN ", "LETTER TWO WITH STROKE;CAPITAL LETTER TONE FIVE;SMALL LETTER TONE FIVE"⟩,
  ⟨0x1BE, "LATIN LETTER ", "INVERTED GLOTTAL STOP WITH STROKE;WYNN;DENTAL CLICK;LATERAL CLICK"⟩,
  ⟨0x1C2, "LATIN ", "LETTER ALVEOLAR CLICK;LETTER RETROFLEX CLICK;CAPITAL LETTER DZ WITH CARON"⟩,
  ⟨0x1C5, "LATIN ", "CAPITAL LETTER D WITH SMALL LETTER Z WITH CARON;SMALL LETTER DZ WITH CARON"⟩,
  ⟨0x1C7, "LATIN CAPITAL LETTER ", "LJ;L WITH SMALL LETTER J"⟩,
  ⟨0x1C9, "LATIN ", "SMALL LETTER LJ;CAPITAL LETTER NJ;CAPITAL LETTER N WITH SMALL LETTER J"⟩,
  ⟨0x1CC, "LATIN ", "SMALL LETTER NJ;CAPITAL LETTER A WITH CARON"⟩,
  ⟨0x1CE, "LATIN ", "SMALL LETTER A WITH CARON;CAPITAL LETTER I WITH CARON"⟩,
  ⟨0x1D0, "LATIN ", "SMALL LETTER I WITH CARON;CAPITAL LETTER O WITH CARON"⟩,
  ⟨0x1D2, "LATIN ", "SMALL LETTER O WITH CARON;CAPITAL LETTER U WITH CARON"⟩,
  ⟨0x1D4, "LATIN ", "SMALL LETTER U WITH CARON;CAPITAL LETTER U WITH DIAERESIS AND MACRON"⟩,
  ⟨0x1D6, "", "LATIN SMALL LETTER U WITH DIAERESIS AND MACRON"⟩,
  ⟨0x1D7, "", "LATIN CAPITAL LETTER U WITH DIAERESIS AND ACUTE"⟩,
  ⟨0x1D8, "", "LATIN SMALL LETTER U WITH DIAERESIS AND ACUTE"⟩,
  ⟨0x1D9, "", "LATIN CAPITAL LETTER U WITH DIAERESIS AND CARON"⟩,
  ⟨0x1DA, "", "LATIN SMALL LETTER U WITH DIAERESIS AND CARON"⟩,
  ⟨0x1DB, "", "LATIN CAPITAL LETTER U WITH DIAERESIS AND GRAVE"⟩,
  ⟨0x1DC, "", "LATIN SMALL LETTER U WITH DIAERESIS AND GRAVE"⟩,
  ⟨0x1DD, "LATIN ", "SMALL LETTER TURNED E;CAPITAL LETTER A WITH DIAERESIS AND MACRON"⟩,
  ⟨0x1DF, "", "LATIN SMALL LETTER A WITH DIAERESIS AND MACRON"⟩,
  ⟨0x1E0, "", "LATIN CAPITAL LETTER A WITH DOT ABOVE AND MACRON"⟩,
  ⟨0x1E1, "LATIN ", "SMALL LETTER A WITH DOT ABOVE AND MACRON;CAPITAL LETTER AE WITH MACRON"⟩,
  ⟨0x1E3, "LATIN ", "SMALL LETTER AE WITH MACRON;CAPITAL LETTER G WITH STROKE"⟩,
  ⟨0x1E5, "LATIN ", "SMALL LETTER G WITH STROKE;CAPITAL LETTER G WITH CARON"⟩,
  ⟨0x1E7, "LATIN ", "SMALL LETTER G WITH CARON;CAPITAL LETTER K WITH CARON"⟩,
  ⟨0x1E9, "LATIN ", "SMALL LETTER K WITH CARON;CAPITAL LETTER O WITH OGONEK"⟩,
  ⟨0x1EB, "LATIN ", "SMALL LETTER O WITH OGONEK;CAPITAL LETTER O WITH OGONEK AND MACRON"⟩,
  ⟨0x1ED, "LATIN ", "SMALL LETTER O WITH OGONEK AND MACRON;CAPITAL LETTER EZH WITH CARON"⟩,
  ⟨0x1EF, "LATIN SMALL LETTER ", "EZH WITH CARON;J WITH CARON"⟩,
  ⟨0x1F1, "LATIN CAPITAL LETTER ", "DZ;D WITH SMALL LETTER Z"⟩,
  ⟨0x1F3, "LATIN ", "SMALL LETTER DZ;CAPITAL LETTER G WITH ACUTE;SMALL LETTER G WITH ACUTE"⟩,
  ⟨0x1F6, "LATIN CAPITAL LETTER ", "HWAIR;WYNN;N WITH GRAVE"⟩,
  ⟨0x1F9, "LATIN ", "SMALL LETTER N WITH GRAVE;CAPITAL LETTER A WITH RING ABOVE AND ACUTE"⟩,
  ⟨0x1FB, "LATIN ", "SMALL LETTER A WITH RING ABOVE AND ACUTE;CAPITAL LETTER AE WITH ACUTE"⟩,
  ⟨0x1FD, "LATIN ", "SMALL LETTER AE WITH ACUTE;CAPITAL LETTER O WITH STROKE AND ACUTE"⟩,
  ⟨0x1FF, "LATIN ", "SMALL LETTER O WITH STROKE AND ACUTE;CAPITAL LETTER A WITH DOUBLE GRAVE"⟩,
  ⟨0x201, "LATIN ", "SMALL LETTER A WITH DOUBLE GRAVE;CAPITAL LETTER A WITH INVERTED BREVE"⟩,
  ⟨0x203, "LATIN ", "SMALL LETTER A WITH INVERTED BREVE;CAPITAL LETTER E WITH DOUBLE GRAVE"⟩,
  ⟨0x205, "LATIN ", "SMALL LETTER E WITH DOUBLE GRAVE;CAPITAL LETTER E WITH INVERTED BREVE"⟩,
  ⟨0x207, "LATIN ", "SMALL LETTER E WITH INVERTED BREVE;CAPITAL LETTER I WITH DOUBLE GRAVE"⟩,
  ⟨0x209, "LATIN ", "SMALL LETTER I WITH DOUBLE GRAVE;CAPITAL LETTER I WITH INVERTED BREVE"⟩,
  ⟨0x20B, "LATIN ", "SMALL LETTER I WITH INVERTED BREVE;CAPITAL LETTER O WITH DOUBLE GRAVE"⟩,
  ⟨0x20D, "LATIN ", "SMALL LETTER O WITH DOUBLE GRAVE;CAPITAL LETTER O WITH INVERTED BREVE"⟩,
  ⟨0x20F, "LATIN ", "SMALL LETTER O WITH INVERTED BREVE;CAPITAL LETTER R WITH DOUBLE GRAVE"⟩,
  ⟨0x211, "LATIN ", "SMALL LETTER R WITH DOUBLE GRAVE;CAPITAL LETTER R WITH INVERTED BREVE"⟩,
  ⟨0x213, "LATIN ", "SMALL LETTER R WITH INVERTED BREVE;CAPITAL LETTER U WITH DOUBLE GRAVE"⟩,
  ⟨0x215, "LATIN ", "SMALL LETTER U WITH DOUBLE GRAVE;CAPITAL LETTER U WITH INVERTED BREVE"⟩,
  ⟨0x217, "LATIN ", "SMALL LETTER U WITH INVERTED BREVE;CAPITAL LETTER S WITH COMMA BELOW"⟩,
  ⟨0x219, "LATIN ", "SMALL LETTER S WITH COMMA BELOW;CAPITAL LETTER T WITH COMMA BELOW"⟩,
  ⟨0x21B, "LATIN ", "SMALL LETTER T WITH COMMA BELOW;CAPITAL LETTER YOGH"⟩,
  ⟨0x21D, "LATIN ", "SMALL LETTER YOGH;CAPITAL LETTER H WITH CARON;SMALL LETTER H WITH CARON"⟩,
  ⟨0x220, "LATIN ", "CAPITAL LETTER N WITH LONG RIGHT LEG;SMALL LETTER D WITH CURL"⟩,
  ⟨0x222, "LATIN ", "CAPITAL LETTER OU;SMALL LETTER OU;CAPITAL LETTER Z WITH HOOK"⟩,
  ⟨0x225, "LATIN ", "SMALL LETTER Z WITH HOOK;CAPITAL LETTER A WITH DOT ABOVE"⟩,
  ⟨0x227, "LATIN ", "SMALL LETTER A WITH DOT ABOVE;CAPITAL LETTER E WITH CEDILLA"⟩,
  ⟨0x229, "LATIN ", "SMALL LETTER E WITH CEDILLA;CAPITAL LETTER O WITH DIAERESIS AND MACRON"⟩,
  ⟨0x22B, "", "LATIN SMALL LETTER O WITH DIAERESIS AND MACRON"⟩,
  ⟨0x22C, "", "LATIN CAPITAL LETTER O WITH TILDE AND MACRON"⟩,
  ⟨0x22D, "LATIN ", "SMALL LETTER O WITH TILDE AND MACRON;CAPITAL LETTER O WITH DOT ABOVE"⟩,
  ⟨0x22F, "LATIN ", "SMALL LETTER O WITH DOT ABOVE;CAPITAL LETTER O WITH DOT ABOVE AND MACRON"⟩,
  ⟨0x231, "LATIN ", "SMALL LETTER O WITH DOT ABOVE AND MACRON;CAPITAL LETTER Y WITH MACRON"⟩,
  ⟨0x233, "LATIN SMALL LETTER ", "Y WITH MACRON;L WITH CURL;N WITH CURL;T WITH CURL;DOTLESS J"⟩,
  ⟨0x238, "LATIN ", "SMALL LETTER DB DIGRAPH;SMALL LETTER QP DIGRAPH;CAPITAL LETTER A WITH STROKE"⟩,
  ⟨0x23B, "LATIN ", "CAPITAL LETTER C WITH STROKE;SMALL LETTER C WITH STROKE"⟩,
  ⟨0x23D, "LATIN CAPITAL LETTER ", "L WITH BAR;T WITH DIAGONAL STROKE"⟩,
  ⟨0x23F, "LATIN SMALL LETTER ", "S WITH SWASH TAIL;Z WITH SWASH TAIL"⟩,
  ⟨0x241, "LATIN ", "CAPITAL LETTER GLOTTAL STOP;SMALL LETTER GLOTTAL STOP"⟩,
  ⟨0x243, "LATIN CAPITAL LETTER ", "B WITH STROKE;U BAR;TURNED V"⟩,
  ⟨0x246, "LATIN ", "CAPITAL LETTER E WITH STROKE;SMALL LETTER E WITH STROKE"⟩,
  ⟨0x248, "LATIN ", "CAPITAL LETTER J WITH STROKE;SMALL LETTER J WITH STROKE"⟩,
  ⟨0x24A, "LATIN ", "CAPITAL LETTER SMALL Q WITH HOOK TAIL;SMALL LETTER Q WITH HOOK TAIL"⟩,
  ⟨0x24C, "LATIN ", "CAPITAL LETTER R WITH STROKE;SMALL LETTER R WITH STROKE"⟩,
  ⟨0x24E, "LATIN ", "CAPITAL LETTER Y WITH STROKE;SMALL LETTER Y WITH STROKE"⟩]

/-- Phonetic letters and accents. -/
def accentNames : List NameRun := [
  ⟨0x250, "LATIN SMALL LETTER ", "TURNED A;ALPHA;TURNED ALPHA;B WITH HOOK;OPEN O;C WITH CURL"⟩,
  ⟨0x256, "LATIN SMALL LETTER ", "D WITH TAIL;D WITH HOOK;REVERSED E;SCHWA;SCHWA WITH HOOK"⟩,
  ⟨0x25B, "LATIN SMALL LETTER ", "OPEN E;REVERSED OPEN E;REVERSED OPEN E WITH HOOK"⟩,
  ⟨0x25E, "LATIN SMALL LETTER ", "CLOSED REVERSED OPEN E;DOTLESS J WITH STROKE"⟩,
  ⟨0x260, "LATIN ", "SMALL LETTER G WITH HOOK;SMALL LETTER SCRIPT G;LETTER SMALL CAPITAL G"⟩,
  ⟨0x263, "LATIN SMALL LETTER ", "GAMMA;RAMS HORN;TURNED H;H WITH HOOK;HENG WITH HOOK"⟩,
  ⟨0x268, "LATIN ", "SMALL LETTER I WITH STROKE;SMALL LETTER IOTA;LETTER SMALL CAPITAL I"⟩,
  ⟨0x26B, "LATIN SMALL LETTER L WITH ", "MIDDLE TILDE;BELT"⟩,
  ⟨0x26D, "LATIN SMALL LETTER ", "L WITH RETROFLEX HOOK;LEZH;TURNED M;TURNED M WITH LONG LEG"⟩,
  ⟨0x271, "LATIN SMALL LETTER ", "M WITH HOOK;N WITH LEFT HOOK;N WITH RETROFLEX HOOK"⟩,
  ⟨0x274, "LATIN ", "LETTER SMALL CAPITAL N;SMALL LETTER BARRED O;LETTER SMALL CAPITAL OE"⟩,
  ⟨0x277, "LATIN SMALL LETTER ", "CLOSED OMEGA;PHI;TURNED R"⟩,
  ⟨0x27A, "LATIN SMALL LETTER ", "TURNED R WITH LONG LEG;TURNED R WITH HOOK;R WITH LONG LEG"⟩,
  ⟨0x27D, "LATIN SMALL LETTER ", "R WITH TAIL;R WITH FISHHOOK;REVERSED R WITH FISHHOOK"⟩,
  ⟨0x280, "LATIN LETTER SMALL CAPITAL ", "R;INVERTED R"⟩,
  ⟨0x282, "LATIN SMALL LETTER ", "S WITH HOOK;ESH;DOTLESS J WITH STROKE AND HOOK"⟩,
  ⟨0x285, "LATIN SMALL LETTER ", "SQUAT REVERSED ESH;ESH WITH CURL;TURNED T"⟩,
  ⟨0x288, "LATIN SMALL LETTER ", "T WITH RETROFLEX HOOK;U BAR;UPSILON;V WITH HOOK;TURNED V"⟩,
  ⟨0x28D, "LATIN ", "SMALL LETTER TURNED W;SMALL LETTER TURNED Y;LETTER SMALL CAPITAL Y"⟩,
  ⟨0x290, "LATIN SMALL LETTER ", "Z WITH RETROFLEX HOOK;Z WITH CURL;EZH;EZH WITH CURL"⟩,
  ⟨0x294, "LATIN LETTER ", "GLOTTAL STOP;PHARYNGEAL VOICED FRICATIVE"⟩,
  ⟨0x296, "LATIN LETTER ", "INVERTED GLOTTAL STOP;STRETCHED C;BILABIAL CLICK;SMALL CAPITAL B"⟩,
  ⟨0x29A, "LATIN ", "SMALL LETTER CLOSED OPEN E;LETTER SMALL CAPITAL G WITH HOOK"⟩,
  ⟨0x29C, "LATIN ", "LETTER SMALL CAPITAL H;SMALL LETTER J WITH CROSSED-TAIL"⟩,
  ⟨0x29E, "LATIN ", "SMALL LETTER TURNED K;LETTER SMALL CAPITAL L"⟩,
  ⟨0x2A0, "LATIN ", "SMALL LETTER Q WITH HOOK;LETTER GLOTTAL STOP WITH STROKE"⟩,
  ⟨0x2A2, "LATIN ", "LETTER REVERSED GLOTTAL STOP WITH STROKE;SMALL LETTER DZ DIGRAPH"⟩,
  ⟨0x2A4, "LATIN SMALL LETTER ", "DEZH DIGRAPH;DZ DIGRAPH WITH CURL;TS DIGRAPH;TESH DIGRAPH"⟩,
  ⟨0x2A8, "LATIN SMALL LETTER ", "TC DIGRAPH WITH CURL;FENG DIGRAPH;LS DIGRAPH;LZ DIGRAPH"⟩,
  ⟨0x2AC, "LATIN LETTER ", "BILABIAL PERCUSSIVE;BIDENTAL PERCUSSIVE"⟩,
  ⟨0x2AE, "LATIN SMALL LETTER TURNED H WITH ", "FISHHOOK;FISHHOOK AND TAIL"⟩,
  ⟨0x2B0, "MODIFIER LETTER SMALL ", "H;H WITH HOOK"⟩,
  ⟨0x2B2, "MODIFIER LETTER SMALL ", "J;R;TURNED R;TURNED R WITH HOOK;CAPITAL INVERTED R"⟩,
  ⟨0x2B7, "MODIFIER LETTER ", "SMALL W;SMALL Y;PRIME;DOUBLE PRIME;TURNED COMMA;APOSTROPHE"⟩,
  ⟨0x2BD, "MODIFIER LETTER ", "REVERSED COMMA;RIGHT HALF RING;LEFT HALF RING;GLOTTAL STOP"⟩,
  ⟨0x2C1, "MODIFIER LETTER ", "REVERSED GLOTTAL STOP;LEFT ARROWHEAD;RIGHT ARROWHEAD;UP ARROWHEAD"⟩,
  ⟨0x2C5, "", "MODIFIER LETTER DOWN ARROWHEAD;MODIFIER LETTER CIRCUMFLEX ACCENT;CARON"⟩,
  ⟨0x2C8, "MODIFIER LETTER ", "VERTICAL LINE;MACRON;ACUTE ACCENT;GRAVE ACCENT"⟩,
  ⟨0x2CC, "MODIFIER LETTER LOW ", "VERTICAL LINE;MACRON;GRAVE ACCENT;ACUTE ACCENT"⟩,
  ⟨0x2D0, "MODIFIER LETTER ", "TRIANGULAR COLON;HALF TRIANGULAR COLON;CENTRED RIGHT HALF RING"⟩,
  ⟨0x2D3, "MODIFIER LETTER ", "CENTRED LEFT HALF RING;UP TACK;DOWN TACK;PLUS SIGN;MINUS SIGN"⟩,
  ⟨0x2D8, "", "BREVE;DOT ABOVE;RING ABOVE;OGONEK;SMALL TILDE;DOUBLE ACUTE ACCENT"⟩,
  ⟨0x2DE, "MODIFIER LETTER ", "RHOTIC HOOK;CROSS ACCENT;SMALL GAMMA;SMALL L"⟩,
  ⟨0x2E2, "MODIFIER LETTER ", "SMALL S;SMALL X;SMALL REVERSED GLOTTAL STOP;EXTRA-HIGH TONE BAR"⟩,
  ⟨0x2E6, "MODIFIER LETTER ", "HIGH TONE BAR;MID TONE BAR;LOW TONE BAR;EXTRA-LOW TONE BAR"⟩,
  ⟨0x2EA, "MODIFIER LETTER ", "YIN DEPARTING TONE MARK;YANG DEPARTING TONE MARK"⟩,
  ⟨0x2EC, "MODIFIER LETTER ", "VOICING;UNASPIRATED;DOUBLE APOSTROPHE;LOW DOWN ARROWHEAD"⟩,
  ⟨0x2F0, "MODIFIER LETTER LOW ", "UP ARROWHEAD;LEFT ARROWHEAD;RIGHT ARROWHEAD;RING"⟩,
  ⟨0x2F4, "MODIFIER LETTER MIDDLE ", "GRAVE ACCENT;DOUBLE GRAVE ACCENT;DOUBLE ACUTE ACCENT"⟩,
  ⟨0x2F7, "MODIFIER LETTER ", "LOW TILDE;RAISED COLON;BEGIN HIGH TONE;END HIGH TONE"⟩,
  ⟨0x2FB, "MODIFIER LETTER ", "BEGIN LOW TONE;END LOW TONE;SHELF;OPEN SHELF;LOW LEFT ARROW"⟩,
  ⟨0x300, "COMBINING ", "GRAVE ACCENT;ACUTE ACCENT;CIRCUMFLEX ACCENT"⟩,
  ⟨0x303, "COMBINING ", "TILDE;MACRON;OVERLINE;BREVE;DOT ABOVE;DIAERESIS;HOOK ABOVE;RING ABOVE"⟩,
  ⟨0x30B, "COMBINING ", "DOUBLE ACUTE ACCENT;CARON;VERTICAL LINE ABOVE;DOUBLE VERTICAL LINE ABOVE"⟩,
  ⟨0x30F, "COMBINING ", "DOUBLE GRAVE ACCENT;CANDRABINDU;INVERTED BREVE;TURNED COMMA ABOVE"⟩,
  ⟨0x313, "COMBINING ", "COMMA ABOVE;REVERSED COMMA ABOVE;COMMA ABOVE RIGHT;GRAVE ACCENT BELOW"⟩,
  ⟨0x317, "COMBINING ", "ACUTE ACCENT BELOW;LEFT TACK BELOW;RIGHT TACK BELOW;LEFT ANGLE ABOVE"⟩,
  ⟨0x31B, "COMBINING ", "HORN;LEFT HALF RING BELOW;UP TACK BELOW;DOWN TACK BELOW;PLUS SIGN BELOW"⟩,
  ⟨0x320, "COMBINING ", "MINUS SIGN BELOW;PALATALIZED HOOK BELOW;RETROFLEX HOOK BELOW"⟩,
  ⟨0x323, "COMBINING ", "DOT BELOW;DIAERESIS BELOW;RING BELOW;COMMA BELOW;CEDILLA"⟩,
  ⟨0x328, "COMBINING ", "OGONEK;VERTICAL LINE BELOW;BRIDGE BELOW;INVERTED DOUBLE ARCH BELOW"⟩,
  ⟨0x32C, "COMBINING ", "CARON BELOW;CIRCUMFLEX ACCENT BELOW;BREVE BELOW;INVERTED BREVE BELOW"⟩,
  ⟨0x330, "COMBINING ", "TILDE BELOW;MACRON BELOW;LOW LINE;DOUBLE LOW LINE;TILDE OVERLAY"⟩,
  ⟨0x335, "COMBINING ", "SHORT STROKE OVERLAY;LONG STROKE OVERLAY;SHORT SOLIDUS OVERLAY"⟩,
  ⟨0x338, "COMBINING ", "LONG SOLIDUS OVERLAY;RIGHT HALF RING BELOW;INVERTED BRIDGE BELOW"⟩,
  ⟨0x33B, "COMBINING ", "SQUARE BELOW;SEAGULL BELOW;X ABOVE;VERTICAL TILDE;DOUBLE OVERLINE"⟩,
  ⟨0x340, "COMBINING ", "GRAVE TONE MARK;ACUTE TONE MARK;GREEK PERISPOMENI;GREEK KORONIS"⟩,
  ⟨0x344, "COMBINING ", "GREEK DIALYTIKA TONOS;GREEK YPOGEGRAMMENI;BRIDGE ABOVE;EQUALS SIGN BELOW"⟩,
  ⟨0x348, "COMBINING ", "DOUBLE VERTICAL LINE BELOW;LEFT ANGLE BELOW;NOT TILDE ABOVE"⟩,
  ⟨0x34B, "COMBINING ", "HOMOTHETIC ABOVE;ALMOST EQUAL TO ABOVE;LEFT RIGHT ARROW BELOW"⟩,
  ⟨0x34E, "COMBINING ", "UPWARDS ARROW BELOW;GRAPHEME JOINER;RIGHT ARROWHEAD ABOVE"⟩,
  ⟨0x351, "COMBINING ", "LEFT HALF RING ABOVE;FERMATA;X BELOW;LEFT ARROWHEAD BELOW"⟩,
  ⟨0x355, "COMBINING RIGHT ARROWHEAD ", "BELOW;AND UP ARROWHEAD BELOW"⟩,
  ⟨0x357, "COMBINING ", "RIGHT HALF RING ABOVE;DOT ABOVE RIGHT;ASTERISK BELOW"⟩,
  ⟨0x35A, "COMBINING ", "DOUBLE RING BELOW;ZIGZAG ABOVE;DOUBLE BREVE BELOW;DOUBLE BREVE"⟩,
  ⟨0x35E, "COMBINING DOUBLE ", "MACRON;MACRON BELOW;TILDE;INVERTED BREVE;RIGHTWARDS ARROW BELOW"⟩,
  ⟨0x363, "COMBINING LATIN SMALL LETTER ", "A;E;I;O;U;C;D;H;M;R;T;V;X"⟩]

/-- Greek and Coptic letters. -/
def greekNames : List NameRun := [
  ⟨0x370, "GREEK ", "CAPITAL LETTER HETA;SMALL LETTER HETA;CAPITAL LETTER ARCHAIC SAMPI"⟩,
  ⟨0x373, "GREEK ", "SMALL LETTER ARCHAIC SAMPI;NUMERAL SIGN;LOWER NUMERAL SIGN"⟩,
  ⟨0x376, "GREEK ", "CAPITAL LETTER PAMPHYLIAN DIGAMMA;SMALL LETTER PAMPHYLIAN DIGAMMA"⟩,
  ⟨0x37A, "", "GREEK YPOGEGRAMMENI"⟩,
  ⟨0x37B, "GREEK SMALL ", "REVERSED LUNATE SIGMA SYMBOL;DOTTED LUNATE SIGMA SYMBOL"⟩,
  ⟨0x37D, "GREEK ", "SMALL REVERSED DOTTED LUNATE SIGMA SYMBOL;QUESTION MARK;CAPITAL LETTER YOT"⟩,
  ⟨0x384, "GREEK ", "TONOS;DIALYTIKA TONOS;CAPITAL LETTER ALPHA WITH TONOS;ANO TELEIA"⟩,
  ⟨0x388, "GREEK CAPITAL LETTER ", "EPSILON WITH TONOS;ETA WITH TONOS;IOTA WITH TONOS"⟩,
  ⟨0x38C, "", "GREEK CAPITAL LETTER OMICRON WITH TONOS"⟩,
  ⟨0x38E, "", "GREEK CAPITAL LETTER UPSILON WITH TONOS"⟩,
  ⟨0x38F, "GREEK ", "CAPITAL LETTER OMEGA WITH TONOS;SMALL LETTER IOTA WITH DIALYTIKA AND TONOS"⟩,
  ⟨0x391, "GREEK CAPITAL LETTER ", "ALPHA;BETA;GAMMA;DELTA;EPSILON"⟩,
  ⟨0x396, "GREEK CAPITAL LETTER ", "ZETA;ETA;THETA;IOTA;KAPPA;LAMDA;MU;NU;XI;OMICRON;PI;RHO"⟩,
  ⟨0x3A3, "GREEK CAPITAL LETTER ", "SIGMA;TAU;UPSILON"⟩,
  ⟨0x3A6, "GREEK CAPITAL LETTER ", "PHI;CHI;PSI;OMEGA;IOTA WITH DIALYTIKA;UPSILON WITH DIALYTIKA"⟩,
  ⟨0x3AC, "GREEK SMALL LETTER ", "ALPHA WITH TONOS;EPSILON WITH TONOS"⟩,
  ⟨0x3AE, "GREEK SMALL LETTER ", "ETA WITH TONOS;IOTA WITH TONOS;UPSILON WITH DIALYTIKA AND TONOS"⟩,
  ⟨0x3B1, "GREEK SMALL LETTER ", "ALPHA;BETA;GAMMA;DELTA;EPSILON;ZETA"⟩,
  ⟨0x3B7, "GREEK SMALL LETTER ", "ETA;THETA;IOTA;KAPPA;LAMDA;MU;NU;XI;OMICRON;PI;RHO;FINAL SIGMA"⟩,
  ⟨0x3C3, "GREEK SMALL LETTER ", "SIGMA;TAU;UPSILON;PHI;CHI;PSI;OMEGA;IOTA WITH DIALYTIKA"⟩,
  ⟨0x3CB, "GREEK SMALL LETTER ", "UPSILON WITH DIALYTIKA;OMICRON WITH TONOS;UPSILON WITH TONOS"⟩,
  ⟨0x3CE, "GREEK ", "SMALL LETTER OMEGA WITH TONOS;CAPITAL KAI SYMBOL;BETA SYMBOL"⟩,
  ⟨0x3D1, "GREEK ", "THETA SYMBOL;UPSILON WITH HOOK SYMBOL;UPSILON WITH ACUTE AND HOOK SYMBOL"⟩,
  ⟨0x3D4, "GREEK ", "UPSILON WITH DIAERESIS AND HOOK SYMBOL;PHI SYMBOL"⟩,
  ⟨0x3D6, "GREEK ", "PI SYMBOL;KAI SYMBOL;LETTER ARCHAIC KOPPA;SMALL LETTER ARCHAIC KOPPA"⟩,
  ⟨0x3DA, "GREEK ", "LETTER STIGMA;SMALL LETTER STIGMA;LETTER DIGAMMA;SMALL LETTER DIGAMMA"⟩,
  ⟨0x3DE, "GREEK ", "LETTER KOPPA;SMALL LETTER KOPPA;LETTER SAMPI;SMALL LETTER SAMPI"⟩,
  ⟨0x3E2, "COPTIC ", "CAPITAL LETTER SHEI;SMALL LETTER SHEI;CAPITAL LETTER FEI"⟩,
  ⟨0x3E5, "COPTIC ", "SMALL LETTER FEI;CAPITAL LETTER KHEI;SMALL LETTER KHEI;CAPITAL LETTER HORI"⟩,
  ⟨0x3E9, "COPTIC ", "SMALL LETTER HORI;CAPITAL LETTER GANGIA;SMALL LETTER GANGIA"⟩,
  ⟨0x3EC, "COPTIC ", "CAPITAL LETTER SHIMA;SMALL LETTER SHIMA;CAPITAL LETTER DEI;SMALL LETTER DEI"⟩,
  ⟨0x3F0, "GREEK ", "KAPPA SYMBOL;RHO SYMBOL;LUNATE SIGMA SYMBOL;LETTER YOT;CAPITAL THETA SYMBOL"⟩,
  ⟨0x3F5, "GREEK ", "LUNATE EPSILON SYMBOL;REVERSED LUNATE EPSILON SYMBOL;CAPITAL LETTER SHO"⟩,
  ⟨0x3F8, "GREEK ", "SMALL LETTER SHO;CAPITAL LUNATE SIGMA SYMBOL;CAPITAL LETTER SAN"⟩,
  ⟨0x3FB, "GREEK ", "SMALL LETTER SAN;RHO WITH STROKE SYMBOL;CAPITAL REVERSED LUNATE SIGMA SYMBOL"⟩,
  ⟨0x3FE, "GREEK CAPITAL ", "DOTTED LUNATE SIGMA SYMBOL;REVERSED DOTTED LUNATE SIGMA SYMBOL"⟩]

/-- Cyrillic letters. -/
def cyrillicNames : List NameRun := [
  ⟨0x400, "", "CYRILLIC CAPITAL LETTER IE WITH GRAVE"⟩,
  ⟨0x401, "CYRILLIC CAPITAL LETTER ", "IO;DJE;GJE;UKRAINIAN IE;DZE;BYELORUSSIAN-UKRAINIAN I"⟩,
  ⟨0x407, "CYRILLIC CAPITAL LETTER ", "YI;JE;LJE;NJE;TSHE;KJE;I WITH GRAVE;SHORT U;DZHE;A"⟩,
  ⟨0x411, "CYRILLIC CAPITAL LETTER ", "BE;VE;GHE;DE;IE;ZHE;ZE;I;SHORT I;KA;EL;EM;EN;O;PE;ER;ES;TE"⟩,
  ⟨0x423, "CYRILLIC CAPITAL LETTER ", "U;EF;HA;TSE;CHE;SHA;SHCHA;HARD SIGN;YERU;SOFT SIGN;E;YU;YA"⟩,
  ⟨0x430, "CYRILLIC SMALL LETTER ", "A;BE;VE;GHE"⟩,
  ⟨0x434, "CYRILLIC SMALL LETTER ", "DE;IE;ZHE;ZE;I;SHORT I;KA;EL;EM;EN;O;PE;ER;ES;TE;U;EF;HA;TSE"⟩,
  ⟨0x447, "CYRILLIC SMALL LETTER ", "CHE;SHA;SHCHA;HARD SIGN;YERU;SOFT SIGN;E;YU;YA;IE WITH GRAVE"⟩,
  ⟨0x451, "CYRILLIC SMALL LETTER ", "IO;DJE;GJE;UKRAINIAN IE;DZE;BYELORUSSIAN-UKRAINIAN I"⟩,
  ⟨0x457, "CYRILLIC SMALL LETTER ", "YI;JE;LJE;NJE;TSHE;KJE;I WITH GRAVE;SHORT U"⟩,
  ⟨0x45F, "CYRILLIC ", "SMALL LETTER DZHE;CAPITAL LETTER OMEGA;SMALL LETTER OMEGA"⟩,
  ⟨0x462, "CYRILLIC ", "CAPITAL LETTER YAT;SMALL LETTER YAT;CAPITAL LETTER IOTIFIED E"⟩,
  ⟨0x465, "CYRILLIC ", "SMALL LETTER IOTIFIED E;CAPITAL LETTER LITTLE YUS;SMALL LETTER LITTLE YUS"⟩,
  ⟨0x468, "CYRILLIC ", "CAPITAL LETTER IOTIFIED LITTLE YUS;SMALL LETTER IOTIFIED LITTLE YUS"⟩,
  ⟨0x46A, "CYRILLIC ", "CAPITAL LETTER BIG YUS;SMALL LETTER BIG YUS"⟩,
  ⟨0x46C, "CYRILLIC ", "CAPITAL LETTER IOTIFIED BIG YUS;SMALL LETTER IOTIFIED BIG YUS"⟩,
  ⟨0x46E, "CYRILLIC ", "CAPITAL LETTER KSI;SMALL LETTER KSI;CAPITAL LETTER PSI;SMALL LETTER PSI"⟩,
  ⟨0x472, "CYRILLIC ", "CAPITAL LETTER FITA;SMALL LETTER FITA;CAPITAL LETTER IZHITSA"⟩,
  ⟨0x475, "CYRILLIC ", "SMALL LETTER IZHITSA;CAPITAL LETTER IZHITSA WITH DOUBLE GRAVE ACCENT"⟩,
  ⟨0x477, "CYRILLIC ", "SMALL LETTER IZHITSA WITH DOUBLE GRAVE ACCENT;CAPITAL LETTER UK"⟩,
  ⟨0x479, "CYRILLIC ", "SMALL LETTER UK;CAPITAL LETTER ROUND OMEGA;SMALL LETTER ROUND OMEGA"⟩,
  ⟨0x47C, "CYRILLIC ", "CAPITAL LETTER OMEGA WITH TITLO;SMALL LETTER OMEGA WITH TITLO"⟩,
  ⟨0x47E, "CYRILLIC ", "CAPITAL LETTER OT;SMALL LETTER OT;CAPITAL LETTER KOPPA;SMALL LETTER KOPPA"⟩,
  ⟨0x482, "", "CYRILLIC THOUSANDS SIGN;COMBINING CYRILLIC TITLO;COMBINING CYRILLIC PALATALIZATION"⟩,
  ⟨0x485, "COMBINING CYRILLIC ", "DASIA PNEUMATA;PSILI PNEUMATA;POKRYTIE;HUNDRED THOUSANDS SIGN"⟩,
  ⟨0x489, "", "COMBINING CYRILLIC MILLIONS SIGN;CYRILLIC CAPITAL LETTER SHORT I WITH TAIL"⟩,
  ⟨0x48B, "CYRILLIC ", "SMALL LETTER SHORT I WITH TAIL;CAPITAL LETTER SEMISOFT SIGN"⟩,
  ⟨0x48D, "CYRILLIC ", "SMALL LETTER SEMISOFT SIGN;CAPITAL LETTER ER WITH TICK"⟩,
  ⟨0x48F, "CYRILLIC ", "SMALL LETTER ER WITH TICK;CAPITAL LETTER GHE WITH UPTURN"⟩,
  ⟨0x491, "CYRILLIC ", "SMALL LETTER GHE WITH UPTURN;CAPITAL LETTER GHE WITH STROKE"⟩,
  ⟨0x493, "CYRILLIC ", "SMALL LETTER GHE WITH STROKE;CAPITAL LETTER GHE WITH MIDDLE HOOK"⟩,
  ⟨0x495, "CYRILLIC ", "SMALL LETTER GHE WITH MIDDLE HOOK;CAPITAL LETTER ZHE WITH DESCENDER"⟩,
  ⟨0x497, "CYRILLIC ", "SMALL LETTER ZHE WITH DESCENDER;CAPITAL LETTER ZE WITH DESCENDER"⟩,
  ⟨0x499, "CYRILLIC ", "SMALL LETTER ZE WITH DESCENDER;CAPITAL LETTER KA WITH DESCENDER"⟩,
  ⟨0x49B, "CYRILLIC ", "SMALL LETTER KA WITH DESCENDER;CAPITAL LETTER KA WITH VERTICAL STROKE"⟩,
  ⟨0x49D, "CYRILLIC ", "SMALL LETTER KA WITH VERTICAL STROKE;CAPITAL LETTER KA WITH STROKE"⟩,
  ⟨0x49F, "CYRILLIC ", "SMALL LETTER KA WITH STROKE;CAPITAL LETTER BASHKIR KA"⟩,
  ⟨0x4A1, "CYRILLIC ", "SMALL LETTER BASHKIR KA;CAPITAL LETTER EN WITH DESCENDER"⟩,
  ⟨0x4A3, "CYRILLIC ", "SMALL LETTER EN WITH DESCENDER;CAPITAL LIGATURE EN GHE"⟩,
  ⟨0x4A5, "CYRILLIC ", "SMALL LIGATURE EN GHE;CAPITAL LETTER PE WITH MIDDLE HOOK"⟩,
  ⟨0x4A7, "CYRILLIC ", "SMALL LETTER PE WITH MIDDLE HOOK;CAPITAL LETTER ABKHASIAN HA"⟩,
  ⟨0x4A9, "CYRILLIC ", "SMALL LETTER ABKHASIAN HA;CAPITAL LETTER ES WITH DESCENDER"⟩,
  ⟨0x4AB, "CYRILLIC ", "SMALL LETTER ES WITH DESCENDER;CAPITAL LETTER TE WITH DESCENDER"⟩,
  ⟨0x4AD, "CYRILLIC ", "SMALL LETTER TE WITH DESCENDER;CAPITAL LETTER STRAIGHT U"⟩,
  ⟨0x4AF, "CYRILLIC ", "SMALL LETTER STRAIGHT U;CAPITAL LETTER STRAIGHT U WITH STROKE"⟩,
  ⟨0x4B1, "CYRILLIC ", "SMALL LETTER STRAIGHT U WITH STROKE;CAPITAL LETTER HA WITH DESCENDER"⟩,
  ⟨0x4B3, "CYRILLIC ", "SMALL LETTER HA WITH DESCENDER;CAPITAL LIGATURE TE TSE"⟩,
  ⟨0x4B5, "CYRILLIC ", "SMALL LIGATURE TE TSE;CAPITAL LETTER CHE WITH DESCENDER"⟩,
  ⟨0x4B7, "CYRILLIC ", "SMALL LETTER CHE WITH DESCENDER;CAPITAL LETTER CHE WITH VERTICAL STROKE"⟩,
  ⟨0x4B9, "", "CYRILLIC SMALL LETTER CHE WITH VERTICAL STROKE"⟩,
  ⟨0x4BA, "CYRILLIC ", "CAPITAL LETTER SHHA;SMALL LETTER SHHA;CAPITAL LETTER ABKHASIAN CHE"⟩,
  ⟨0x4BD, "CYRILLIC ", "SMALL LETTER ABKHASIAN CHE;CAPITAL LETTER ABKHASIAN CHE WITH DESCENDER"⟩,
  ⟨0x4BF, "", "CYRILLIC SMALL LETTER ABKHASIAN CHE WITH DESCENDER"⟩,
  ⟨0x4C0, "CYRILLIC ", "LETTER PALOCHKA;CAPITAL LETTER ZHE WITH BREVE"⟩,
  ⟨0x4C2, "CYRILLIC ", "SMALL LETTER ZHE WITH BREVE;CAPITAL LETTER KA WITH HOOK"⟩,
  ⟨0x4C4, "CYRILLIC ", "SMALL LETTER KA WITH HOOK;CAPITAL LETTER EL WITH TAIL"⟩,
  ⟨0x4C6, "CYRILLIC ", "SMALL LETTER EL WITH TAIL;CAPITAL LETTER EN WITH HOOK"⟩,
  ⟨0x4C8, "CYRILLIC ", "SMALL LETTER EN WITH HOOK;CAPITAL LETTER EN WITH TAIL"⟩,
  ⟨0x4CA, "CYRILLIC ", "SMALL LETTER EN WITH TAIL;CAPITAL LETTER KHAKASSIAN CHE"⟩,
  ⟨0x4CC, "CYRILLIC ", "SMALL LETTER KHAKASSIAN CHE;CAPITAL LETTER EM WITH TAIL"⟩,
  ⟨0x4CE, "CYRILLIC SMALL LETTER ", "EM WITH TAIL;PALOCHKA"⟩,
  ⟨0x4D0, "CYRILLIC ", "CAPITAL LETTER A WITH BREVE;SMALL LETTER A WITH BREVE"⟩,
  ⟨0x4D2, "CYRILLIC ", "CAPITAL LETTER A WITH DIAERESIS;SMALL LETTER A WITH DIAERESIS"⟩,
  ⟨0x4D4, "CYRILLIC ", "CAPITAL LIGATURE A IE;SMALL LIGATURE A IE;CAPITAL LETTER IE WITH BREVE"⟩,
  ⟨0x4D7, "CYRILLIC ", "SMALL LETTER IE WITH BREVE;CAPITAL LETTER SCHWA"⟩,
  ⟨0x4D9, "CYRILLIC ", "SMALL LETTER SCHWA;CAPITAL LETTER SCHWA WITH DIAERESIS"⟩,
  ⟨0x4DB, "CYRILLIC ", "SMALL LETTER SCHWA WITH DIAERESIS;CAPITAL LETTER ZHE WITH DIAERESIS"⟩,
  ⟨0x4DD, "CYRILLIC ", "SMALL LETTER ZHE WITH DIAERESIS;CAPITAL LETTER ZE WITH DIAERESIS"⟩,
  ⟨0x4DF, "CYRILLIC ", "SMALL LETTER ZE WITH DIAERESIS;CAPITAL LETTER ABKHASIAN DZE"⟩,
  ⟨0x4E1, "CYRILLIC ", "SMALL LETTER ABKHASIAN DZE;CAPITAL LETTER I WITH MACRON"⟩,
  ⟨0x4E3, "CYRILLIC ", "SMALL LETTER I WITH MACRON;CAPITAL LETTER I WITH DIAERESIS"⟩,
  ⟨0x4E5, "CYRILLIC ", "SMALL LETTER I WITH DIAERESIS;CAPITAL LETTER O WITH DIAERESIS"⟩,
  ⟨0x4E7, "CYRILLIC ", "SMALL LETTER O WITH DIAERESIS;CAPITAL LETTER BARRED O"⟩,
  ⟨0x4E9, "CYRILLIC ", "SMALL LETTER BARRED O;CAPITAL LETTER BARRED O WITH DIAERESIS"⟩,
  ⟨0x4EB, "CYRILLIC ", "SMALL LETTER BARRED O WITH DIAERESIS;CAPITAL LETTER E WITH DIAERESIS"⟩,
  ⟨0x4ED, "CYRILLIC ", "SMALL LETTER E WITH DIAERESIS;CAPITAL LETTER U WITH MACRON"⟩,
  ⟨0x4EF, "CYRILLIC ", "SMALL LETTER U WITH MACRON;CAPITAL LETTER U WITH DIAERESIS"⟩,
  ⟨0x4F1, "CYRILLIC ", "SMALL LETTER U WITH DIAERESIS;CAPITAL LETTER U WITH DOUBLE ACUTE"⟩,
  ⟨0x4F3, "CYRILLIC ", "SMALL LETTER U WITH DOUBLE ACUTE;CAPITAL LETTER CHE WITH DIAERESIS"⟩,
  ⟨0x4F5, "CYRILLIC ", "SMALL LETTER CHE WITH DIAERESIS;CAPITAL LETTER GHE WITH DESCENDER"⟩,
  ⟨0x4F7, "CYRILLIC ", "SMALL LETTER GHE WITH DESCENDER;CAPITAL LETTER YERU WITH DIAERESIS"⟩,
  ⟨0x4F9, "CYRILLIC ", "SMALL LETTER YERU WITH DIAERESIS;CAPITAL LETTER GHE WITH STROKE AND HOOK"⟩,
  ⟨0x4FB, "", "CYRILLIC SMALL LETTER GHE WITH STROKE AND HOOK"⟩,
  ⟨0x4FC, "CYRILLIC ", "CAPITAL LETTER HA WITH HOOK;SMALL LETTER HA WITH HOOK"⟩,
  ⟨0x4FE, "CYRILLIC ", "CAPITAL LETTER HA WITH STROKE;SMALL LETTER HA WITH STROKE"⟩,
  ⟨0x500, "CYRILLIC ", "CAPITAL LETTER KOMI DE;SMALL LETTER KOMI DE;CAPITAL LETTER KOMI DJE"⟩,
  ⟨0x503, "CYRILLIC ", "SMALL LETTER KOMI DJE;CAPITAL LETTER KOMI ZJE;SMALL LETTER KOMI ZJE"⟩,
  ⟨0x506, "CYRILLIC ", "CAPITAL LETTER KOMI DZJE;SMALL LETTER KOMI DZJE;CAPITAL LETTER KOMI LJE"⟩,
  ⟨0x509, "CYRILLIC ", "SMALL LETTER KOMI LJE;CAPITAL LETTER KOMI NJE;SMALL LETTER KOMI NJE"⟩,
  ⟨0x50C, "CYRILLIC ", "CAPITAL LETTER KOMI SJE;SMALL LETTER KOMI SJE;CAPITAL LETTER KOMI TJE"⟩,
  ⟨0x50F, "CYRILLIC ", "SMALL LETTER KOMI TJE;CAPITAL LETTER REVERSED ZE;SMALL LETTER REVERSED ZE"⟩,
  ⟨0x512, "CYRILLIC ", "CAPITAL LETTER EL WITH HOOK;SMALL LETTER EL WITH HOOK"⟩,
  ⟨0x514, "CYRILLIC ", "CAPITAL LETTER LHA;SMALL LETTER LHA;CAPITAL LETTER RHA"⟩,
  ⟨0x517, "CYRILLIC ", "SMALL LETTER RHA;CAPITAL LETTER YAE;SMALL LETTER YAE;CAPITAL LETTER QA"⟩,
  ⟨0x51B, "CYRILLIC ", "SMALL LETTER QA;CAPITAL LETTER WE;SMALL LETTER WE;CAPITAL LETTER ALEUT KA"⟩,
  ⟨0x51F, "CYRILLIC ", "SMALL LETTER ALEUT KA;CAPITAL LETTER EL WITH MIDDLE HOOK"⟩,
  ⟨0x521, "CYRILLIC ", "SMALL LETTER EL WITH MIDDLE HOOK;CAPITAL LETTER EN WITH MIDDLE HOOK"⟩,
  ⟨0x523, "CYRILLIC ", "SMALL LETTER EN WITH MIDDLE HOOK;CAPITAL LETTER PE WITH DESCENDER"⟩,
  ⟨0x525, "CYRILLIC ", "SMALL LETTER PE WITH DESCENDER;CAPITAL LETTER SHHA WITH DESCENDER"⟩,
  ⟨0x527, "CYRILLIC ", "SMALL LETTER SHHA WITH DESCENDER;CAPITAL LETTER EN WITH LEFT HOOK"⟩,
  ⟨0x529, "CYRILLIC ", "SMALL LETTER EN WITH LEFT HOOK;CAPITAL LETTER DZZHE"⟩,
  ⟨0x52B, "CYRILLIC ", "SMALL LETTER DZZHE;CAPITAL LETTER DCHE;SMALL LETTER DCHE"⟩,
  ⟨0x52E, "CYRILLIC ", "CAPITAL LETTER EL WITH DESCENDER;SMALL LETTER EL WITH DESCENDER"⟩]

/-- Armenian, Hebrew and Arabic letters and signs. -/
def nearEasternNames : List NameRun := [
  ⟨0x531, "ARMENIAN CAPITAL LETTER ", "AYB;BEN;GIM;DA;ECH;ZA;EH;ET;TO"⟩,
  ⟨0x53A, "ARMENIAN CAPITAL LETTER ", "ZHE;INI;LIWN;XEH;CA;KEN;HO;JA;GHAD;CHEH;MEN;YI;NOW;SHA;VO"⟩,
  ⟨0x549, "ARMENIAN CAPITAL LETTER ", "CHA;PEH;JHEH;RA;SEH;VEW;TIWN;REH;CO;YIWN;PIWR;KEH;OH;FEH"⟩,
  ⟨0x559, "ARMENIAN ", "MODIFIER LETTER LEFT HALF RING;APOSTROPHE"⟩,
  ⟨0x55B, "ARMENIAN ", "EMPHASIS MARK;EXCLAMATION MARK;COMMA;QUESTION MARK;ABBREVIATION MARK"⟩,
  ⟨0x560, "ARMENIAN SMALL LETTER ", "TURNED AYB;AYB;BEN;GIM;DA;ECH;ZA;EH"⟩,
  ⟨0x568, "ARMENIAN SMALL LETTER ", "ET;TO;ZHE;INI;LIWN;XEH;CA;KEN;HO;JA;GHAD;CHEH;MEN;YI;NOW;SHA"⟩,
  ⟨0x578, "ARMENIAN SMALL LETTER ", "VO;CHA;PEH;JHEH;RA;SEH;VEW;TIWN;REH;CO;YIWN;PIWR;KEH;OH;FEH"⟩,
  ⟨0x587, "ARMENIAN ", "SMALL LIGATURE ECH YIWN;SMALL LETTER YI WITH STROKE;FULL STOP;HYPHEN"⟩,
  ⟨0x58D, "", "RIGHT-FACING ARMENIAN ETERNITY SIGN"⟩,
  ⟨0x58E, "", "LEFT-FACING ARMENIAN ETERNITY SIGN;ARMENIAN DRAM SIGN"⟩,
  ⟨0x591, "HEBREW ACCENT ", "ETNAHTA;SEGOL"⟩,
  ⟨0x593, "HEBREW ACCENT ", "SHALSHELET;ZAQEF QATAN;ZAQEF GADOL;TIPEHA;REVIA;ZARQA;PASHTA;YETIV"⟩,
  ⟨0x59B, "HEBREW ACCENT ", "TEVIR;GERESH;GERESH MUQDAM;GERSHAYIM;QARNEY PARA;TELISHA GEDOLA"⟩,
  ⟨0x5A1, "HEBREW ACCENT ", "PAZER;ATNAH HAFUKH;MUNAH;MAHAPAKH;MERKHA;MERKHA KEFULA"⟩,
  ⟨0x5A7, "HEBREW ACCENT ", "DARGA;QADMA;TELISHA QETANA;YERAH BEN YOMO;OLE;ILUY;DEHI;ZINOR"⟩,
  ⟨0x5AF, "HEBREW ", "MARK MASORA CIRCLE;POINT SHEVA;POINT HATAF SEGOL;POINT HATAF PATAH"⟩,
  ⟨0x5B3, "HEBREW POINT ", "HATAF QAMATS;HIRIQ;TSERE;SEGOL;PATAH;QAMATS;HOLAM;HOLAM HASER FOR VAV"⟩,
  ⟨0x5BB, "HEBREW ", "POINT QUBUTS;POINT DAGESH OR MAPIQ;POINT METEG;PUNCTUATION MAQAF;POINT RAFE"⟩,
  ⟨0x5C0, "HEBREW ", "PUNCTUATION PASEQ;POINT SHIN DOT;POINT SIN DOT;PUNCTUATION SOF PASUQ"⟩,
  ⟨0x5C4, "HEBREW ", "MARK UPPER DOT;MARK LOWER DOT;PUNCTUATION NUN HAFUKHA;POINT QAMATS QATAN"⟩,
  ⟨0x5D0, "HEBREW LETTER ", "ALEF;BET;GIMEL;DALET"⟩,
  ⟨0x5D4, "HEBREW LETTER ", "HE;VAV;ZAYIN;HET;TET;YOD;FINAL KAF;KAF;LAMED;FINAL MEM;MEM;FINAL NUN"⟩,
  ⟨0x5E0, "HEBREW LETTER ", "NUN;SAMEKH;AYIN;FINAL PE;PE;FINAL TSADI;TSADI;QOF;RESH;SHIN;TAV"⟩,
  ⟨0x5EF, "HEBREW ", "YOD TRIANGLE;LIGATURE YIDDISH DOUBLE VAV;LIGATURE YIDDISH VAV YOD"⟩,
  ⟨0x5F2, "HEBREW ", "LIGATURE YIDDISH DOUBLE YOD;PUNCTUATION GERESH;PUNCTUATION GERSHAYIM"⟩,
  ⟨0x600, "ARABIC ", "NUMBER SIGN;SIGN SANAH;FOOTNOTE MARKER;SIGN SAFHA"⟩,
  ⟨0x604, "", "ARABIC SIGN SAMVAT;ARABIC NUMBER MARK ABOVE;ARABIC-INDIC CUBE ROOT"⟩,
  ⟨0x607, "", "ARABIC-INDIC FOURTH ROOT;ARABIC RAY;ARABIC-INDIC PER MILLE SIGN"⟩,
  ⟨0x60A, "", "ARABIC-INDIC PER TEN THOUSAND SIGN;AFGHANI SIGN;ARABIC COMMA;ARABIC DATE SEPARATOR"⟩,
  ⟨0x60E, "ARABIC ", "POETIC VERSE SIGN;SIGN MISRA;SIGN SALLALLAHOU ALAYHE WASSALLAM"⟩,
  ⟨0x611, "ARABIC SIGN ", "ALAYHE ASSALLAM;RAHMATULLAH ALAYHE;RADI ALLAHOU ANHU;TAKHALLUS"⟩,
  ⟨0x615, "ARABIC SMALL HIGH ", "TAH;LIGATURE ALEF WITH LAM WITH YEH;ZAIN"⟩,
  ⟨0x618, "ARABIC ", "SMALL FATHA;SMALL DAMMA;SMALL KASRA;SEMICOLON;LETTER MARK;END OF TEXT MARK"⟩,
  ⟨0x61E, "ARABIC ", "TRIPLE DOT PUNCTUATION MARK;QUESTION MARK;LETTER KASHMIRI YEH;LETTER HAMZA"⟩,
  ⟨0x622, "ARABIC LETTER ", "ALEF WITH MADDA ABOVE;ALEF WITH HAMZA ABOVE;WAW WITH HAMZA ABOVE"⟩,
  ⟨0x625, "ARABIC LETTER ", "ALEF WITH HAMZA BELOW;YEH WITH HAMZA ABOVE;ALEF;BEH;TEH MARBUTA"⟩,
  ⟨0x62A, "ARABIC LETTER ", "TEH;THEH;JEEM;HAH;KHAH;DAL;THAL;REH;ZAIN;SEEN;SHEEN;SAD;DAD;TAH"⟩,
  ⟨0x638, "ARABIC LETTER ", "ZAH;AIN;GHAIN;KEHEH WITH TWO DOTS ABOVE;KEHEH WITH THREE DOTS BELOW"⟩,
  ⟨0x63D, "ARABIC LETTER FARSI YEH WITH ", "INVERTED V;TWO DOTS ABOVE"⟩,
  ⟨0x63F, "ARABIC ", "LETTER FARSI YEH WITH THREE DOTS ABOVE;TATWEEL"⟩,
  ⟨0x641, "ARABIC LETTER ", "FEH;QAF;KAF;LAM;MEEM;NOON;HEH;WAW;ALEF MAKSURA;YEH"⟩,
  ⟨0x64B, "ARABIC ", "FATHATAN;DAMMATAN;KASRATAN;FATHA;DAMMA;KASRA;SHADDA;SUKUN;MADDAH ABOVE"⟩,
  ⟨0x654, "ARABIC ", "HAMZA ABOVE;HAMZA BELOW;SUBSCRIPT ALEF;INVERTED DAMMA;MARK NOON GHUNNA"⟩,
  ⟨0x659, "ARABIC ", "ZWARAKAY;VOWEL SIGN SMALL V ABOVE;VOWEL SIGN INVERTED SMALL V ABOVE"⟩,
  ⟨0x65C, "ARABIC ", "VOWEL SIGN DOT BELOW;REVERSED DAMMA;FATHA WITH TWO DOTS;WAVY HAMZA BELOW"⟩,
  ⟨0x660, "ARABIC-INDIC DIGIT ", "ZERO;ONE;TWO;THREE;FOUR;FIVE;SIX;SEVEN"⟩,
  ⟨0x668, "", "ARABIC-INDIC DIGIT EIGHT;ARABIC-INDIC DIGIT NINE;ARABIC PERCENT SIGN"⟩,
  ⟨0x66B, "ARABIC ", "DECIMAL SEPARATOR;THOUSANDS SEPARATOR;FIVE POINTED STAR;LETTER DOTLESS BEH"⟩,
  ⟨0x66F, "ARABIC LETTER ", "DOTLESS QAF;SUPERSCRIPT ALEF;ALEF WASLA;ALEF WITH WAVY HAMZA ABOVE"⟩,
  ⟨0x673, "ARABIC LETTER ", "ALEF WITH WAVY HAMZA BELOW;HIGH HAMZA;HIGH HAMZA ALEF"⟩,
  ⟨0x676, "ARABIC LETTER ", "HIGH HAMZA WAW;U WITH HAMZA ABOVE;HIGH HAMZA YEH;TTEH"⟩,
  ⟨0x67A, "ARABIC LETTER ", "TTEHEH;BEEH;TEH WITH RING;TEH WITH THREE DOTS ABOVE DOWNWARDS;PEH"⟩,
  ⟨0x67F, "ARABIC LETTER ", "TEHEH;BEHEH;HAH WITH HAMZA ABOVE;HAH WITH TWO DOTS VERTICAL ABOVE"⟩,
  ⟨0x683, "ARABIC LETTER ", "NYEH;DYEH;HAH WITH THREE DOTS ABOVE;TCHEH;TCHEHEH;DDAL;DAL WITH RING"⟩,
  ⟨0x68A, "ARABIC LETTER ", "DAL WITH DOT BELOW;DAL WITH DOT BELOW AND SMALL TAH;DAHAL;DDAHAL"⟩,
  ⟨0x68E, "ARABIC LETTER ", "DUL;DAL WITH THREE DOTS ABOVE DOWNWARDS;DAL WITH FOUR DOTS ABOVE"⟩,
  ⟨0x691, "ARABIC LETTER ", "RREH;REH WITH SMALL V;REH WITH RING;REH WITH DOT BELOW"⟩,
  ⟨0x695, "ARABIC LETTER REH WITH ", "SMALL V BELOW;DOT BELOW AND DOT ABOVE;TWO DOTS ABOVE"⟩,
  ⟨0x698, "ARABIC LETTER ", "JEH;REH WITH FOUR DOTS ABOVE;SEEN WITH DOT BELOW AND DOT ABOVE"⟩,
  ⟨0x69B, "ARABIC LETTER SEEN WITH THREE DOTS ", "BELOW;BELOW AND THREE DOTS ABOVE"⟩,
  ⟨0x69D, "ARABIC LETTER SAD WITH ", "TWO DOTS BELOW;THREE DOTS ABOVE"⟩,
  ⟨0x69F, "ARABIC LETTER ", "TAH WITH THREE DOTS ABOVE;AIN WITH THREE DOTS ABOVE"⟩,
  ⟨0x6A1, "ARABIC LETTER ", "DOTLESS FEH;FEH WITH DOT MOVED BELOW;FEH WITH DOT BELOW"⟩,
  ⟨0x6A4, "ARABIC LETTER ", "VEH;FEH WITH THREE DOTS BELOW;PEHEH;QAF WITH DOT ABOVE"⟩,
  ⟨0x6A8, "ARABIC LETTER ", "QAF WITH THREE DOTS ABOVE;KEHEH;SWASH KAF;KAF WITH RING"⟩,
  ⟨0x6AC, "ARABIC LETTER ", "KAF WITH DOT ABOVE;NG;KAF WITH THREE DOTS BELOW;GAF;GAF WITH RING"⟩,
  ⟨0x6B1, "ARABIC LETTER ", "NGOEH;GAF WITH TWO DOTS BELOW;GUEH;GAF WITH THREE DOTS ABOVE"⟩,
  ⟨0x6B5, "ARABIC LETTER LAM WITH ", "SMALL V;DOT ABOVE;THREE DOTS ABOVE"⟩,
  ⟨0x6B8, "ARABIC LETTER ", "LAM WITH THREE DOTS BELOW;NOON WITH DOT BELOW"⟩,
  ⟨0x6BA, "ARABIC LETTER ", "NOON GHUNNA;RNOON;NOON WITH RING;NOON WITH THREE DOTS ABOVE"⟩,
  ⟨0x6BE, "ARABIC LETTER ", "HEH DOACHASHMEE;TCHEH WITH DOT ABOVE;HEH WITH YEH ABOVE"⟩,
  ⟨0x6C1, "ARABIC LETTER ", "HEH GOAL;HEH GOAL WITH HAMZA ABOVE;TEH MARBUTA GOAL"⟩,
  ⟨0x6C4, "ARABIC LETTER ", "WAW WITH RING;KIRGHIZ OE;OE;U;YU;KIRGHIZ YU;WAW WITH TWO DOTS ABOVE"⟩,
  ⟨0x6CB, "ARABIC LETTER ", "VE;FARSI YEH;YEH WITH TAIL;YEH WITH SMALL V;WAW WITH DOT ABOVE"⟩,
  ⟨0x6D0, "ARABIC LETTER ", "E;YEH WITH THREE DOTS BELOW;YEH BARREE;YEH BARREE WITH HAMZA ABOVE"⟩,
  ⟨0x6D4, "ARABIC ", "FULL STOP;LETTER AE;SMALL HIGH LIGATURE SAD WITH LAM WITH ALEF MAKSURA"⟩,
  ⟨0x6D7, "", "ARABIC SMALL HIGH LIGATURE QAF WITH LAM WITH ALEF MAKSURA"⟩,
  ⟨0x6D8, "ARABIC SMALL HIGH ", "MEEM INITIAL FORM;LAM ALEF;JEEM"⟩,
  ⟨0x6DB, "ARABIC ", "SMALL HIGH THREE DOTS;SMALL HIGH SEEN;END OF AYAH;START OF RUB EL HIZB"⟩,
  ⟨0x6DF, "ARABIC SMALL HIGH ", "ROUNDED ZERO;UPRIGHT RECTANGULAR ZERO;DOTLESS HEAD OF KHAH"⟩,
  ⟨0x6E2, "ARABIC SMALL ", "HIGH MEEM ISOLATED FORM;LOW SEEN;HIGH MADDA;WAW;YEH"⟩,
  ⟨0x6E7, "ARABIC ", "SMALL HIGH YEH;SMALL HIGH NOON;PLACE OF SAJDAH;EMPTY CENTRE LOW STOP"⟩,
  ⟨0x6EB, "ARABIC ", "EMPTY CENTRE HIGH STOP;ROUNDED HIGH STOP WITH FILLED CENTRE"⟩,
  ⟨0x6ED, "ARABIC ", "SMALL LOW MEEM;LETTER DAL WITH INVERTED V;LETTER REH WITH INVERTED V"⟩,
  ⟨0x6F0, "EXTENDED ARABIC-INDIC DIGIT ", "ZERO;ONE;TWO;THREE;FOUR;FIVE;SIX;SEVEN;EIGHT"⟩,
  ⟨0x6F9, "", "EXTENDED ARABIC-INDIC DIGIT NINE;ARABIC LETTER SHEEN WITH DOT BELOW"⟩,
  ⟨0x6FB, "ARABIC ", "LETTER DAD WITH DOT BELOW;LETTER GHAIN WITH DOT BELOW;SIGN SINDHI AMPERSAND"⟩,
  ⟨0x6FE, "ARABIC ", "SIGN SINDHI POSTPOSITION MEN;LETTER HEH WITH INVERTED V"⟩]

/-- Letters and signs of the Indic scripts. -/
def indicNames : List NameRun := [
  ⟨0x900, "DEVANAGARI SIGN ", "INVERTED CANDRABINDU;CANDRABINDU;ANUSVARA;VISARGA"⟩,
  ⟨0x904, "DEVANAGARI LETTER ", "SHORT A;A;AA;I;II;U;UU;VOCALIC R"⟩,
  ⟨0x90C, "DEVANAGARI LETTER ", "VOCALIC L;CANDRA E;SHORT E;E;AI;CANDRA O;SHORT O;O;AU;KA"⟩,
  ⟨0x916, "DEVANAGARI LETTER ", "KHA;GA;GHA;NGA;CA;CHA;JA;JHA;NYA;TTA;TTHA;DDA;DDHA;NNA;TA;THA;DA"⟩,
  ⟨0x927, "DEVANAGARI LETTER ", "DHA;NA;NNNA;PA;PHA;BA;BHA;MA;YA;RA;RRA;LA;LLA;LLLA;VA;SHA;SSA;SA"⟩,
  ⟨0x939, "DEVANAGARI ", "LETTER HA;VOWEL SIGN OE;VOWEL SIGN OOE;SIGN NUKTA;SIGN AVAGRAHA"⟩,
  ⟨0x93E, "DEVANAGARI VOWEL SIGN ", "AA;I;II;U;UU"⟩,
  ⟨0x943, "DEVANAGARI VOWEL SIGN ", "VOCALIC R;VOCALIC RR;CANDRA E;SHORT E;E;AI;CANDRA O;SHORT O"⟩,
  ⟨0x94B, "DEVANAGARI ", "VOWEL SIGN O;VOWEL SIGN AU;SIGN VIRAMA;VOWEL SIGN PRISHTHAMATRA E"⟩,
  ⟨0x94F, "DEVANAGARI ", "VOWEL SIGN AW;OM;STRESS SIGN UDATTA;STRESS SIGN ANUDATTA;GRAVE ACCENT"⟩,
  ⟨0x954, "DEVANAGARI ", "ACUTE ACCENT;VOWEL SIGN CANDRA LONG E;VOWEL SIGN UE;VOWEL SIGN UUE"⟩,
  ⟨0x958, "DEVANAGARI LETTER ", "QA;KHHA;GHHA;ZA;DDDHA;RHA;FA;YYA;VOCALIC RR;VOCALIC LL"⟩,
  ⟨0x962, "DEVANAGARI ", "VOWEL SIGN VOCALIC L;VOWEL SIGN VOCALIC LL;DANDA;DOUBLE DANDA"⟩,
  ⟨0x966, "DEVANAGARI DIGIT ", "ZERO;ONE;TWO;THREE;FOUR;FIVE"⟩,
  ⟨0x96C, "DEVANAGARI ", "DIGIT SIX;DIGIT SEVEN;DIGIT EIGHT;DIGIT NINE;ABBREVIATION SIGN"⟩,
  ⟨0x971, "DEVANAGARI ", "SIGN HIGH SPACING DOT;LETTER CANDRA A;LETTER OE;LETTER OOE"⟩,
  ⟨0x975, "DEVANAGARI LETTER ", "AW;UE;UUE;MARWARI DDA;ZHA;HEAVY YA;GGA;JJA;GLOTTAL STOP;DDDA;BBA"⟩,
  ⟨0x980, "BENGALI ", "ANJI;SIGN CANDRABINDU;SIGN ANUSVARA;SIGN VISARGA"⟩,
  ⟨0x985, "BENGALI LETTER ", "A;AA;I;II;U;UU;VOCALIC R;VOCALIC L"⟩,
  ⟨0x98F, "BENGALI LETTER ", "E;AI"⟩,
  ⟨0x993, "BENGALI LETTER ", "O;AU;KA;KHA"⟩,
  ⟨0x997, "BENGALI LETTER ", "GA;GHA;NGA;CA;CHA;JA;JHA;NYA;TTA;TTHA;DDA;DDHA;NNA;TA;THA;DA;DHA;NA"⟩,
  ⟨0x9AA, "BENGALI LETTER ", "PA;PHA;BA;BHA;MA;YA;RA"⟩,
  ⟨0x9B2, "", "BENGALI LETTER LA"⟩,
  ⟨0x9B6, "BENGALI LETTER ", "SHA;SSA;SA;HA"⟩,
  ⟨0x9BC, "BENGALI SIGN ", "NUKTA;AVAGRAHA"⟩,
  ⟨0x9BE, "BENGALI VOWEL SIGN ", "AA;I;II;U;UU;VOCALIC R;VOCALIC RR"⟩,
  ⟨0x9C7, "BENGALI VOWEL SIGN ", "E;AI"⟩,
  ⟨0x9CB, "BENGALI ", "VOWEL SIGN O;VOWEL SIGN AU;SIGN VIRAMA;LETTER KHANDA TA"⟩,
  ⟨0x9D7, "", "BENGALI AU LENGTH MARK"⟩,
  ⟨0x9DC, "BENGALI LETTER ", "RRA;RHA"⟩,
  ⟨0x9DF, "BENGALI LETTER ", "YYA;VOCALIC RR"⟩,
  ⟨0x9E1, "BENGALI ", "LETTER VOCALIC LL;VOWEL SIGN VOCALIC L;VOWEL SIGN VOCALIC LL"⟩,
  ⟨0x9E6, "BENGALI DIGIT ", "ZERO;ONE;TWO;THREE;FOUR;FIVE;SIX"⟩,
  ⟨0x9ED, "BENGALI ", "DIGIT SEVEN;DIGIT EIGHT;DIGIT NINE;LETTER RA WITH MIDDLE DIAGONAL"⟩,
  ⟨0x9F1, "BENGALI ", "LETTER RA WITH LOWER DIAGONAL;RUPEE MARK;RUPEE SIGN"⟩,
  ⟨0x9F4, "BENGALI CURRENCY NUMERATOR ", "ONE;TWO;THREE;FOUR"⟩,
  ⟨0x9F8, "BENGALI CURRENCY ", "NUMERATOR ONE LESS THAN THE DENOMINATOR;DENOMINATOR SIXTEEN"⟩,
  ⟨0x9FA, "BENGALI ", "ISSHAR;GANDA MARK;LETTER VEDIC ANUSVARA;ABBREVIATION SIGN;SANDHI MARK"⟩,
  ⟨0xA01, "GURMUKHI SIGN ", "ADAK BINDI;BINDI;VISARGA"⟩,
  ⟨0xA05, "GURMUKHI LETTER ", "A;AA;I;II;U;UU"⟩,
  ⟨0xA0F, "GURMUKHI LETTER ", "EE;AI"⟩,
  ⟨0xA13, "GURMUKHI LETTER ", "OO;AU;KA;KHA;GA"⟩,
  ⟨0xA18, "GURMUKHI LETTER ", "GHA;NGA;CA;CHA;JA;JHA;NYA;TTA;TTHA;DDA;DDHA;NNA;TA;THA;DA;DHA;NA"⟩,
  ⟨0xA2A, "GURMUKHI LETTER ", "PA;PHA;BA;BHA;MA;YA;RA"⟩,
  ⟨0xA32, "GURMUKHI LETTER ", "LA;LLA"⟩,
  ⟨0xA35, "GURMUKHI LETTER ", "VA;SHA"⟩,
  ⟨0xA38, "GURMUKHI LETTER ", "SA;HA"⟩,
  ⟨0xA3C, "", "GURMUKHI SIGN NUKTA"⟩,
  ⟨0xA3E, "GURMUKHI VOWEL SIGN ", "AA;I;II;U;UU"⟩,
  ⟨0xA47, "GURMUKHI VOWEL SIGN ", "EE;AI"⟩,
  ⟨0xA4B, "GURMUKHI ", "VOWEL SIGN OO;VOWEL SIGN AU;SIGN VIRAMA"⟩,
  ⟨0xA51, "", "GURMUKHI SIGN UDAAT"⟩,
  ⟨0xA59, "GURMUKHI LETTER ", "KHHA;GHHA;ZA;RRA"⟩,
  ⟨0xA5E, "", "GURMUKHI LETTER FA"⟩,
  ⟨0xA66, "GURMUKHI DIGIT ", "ZERO;ONE;TWO;THREE;FOUR;FIVE;SIX;SEVEN;EIGHT"⟩,
  ⟨0xA6F, "GURMUKHI ", "DIGIT NINE;TIPPI;ADDAK;IRI;URA;EK ONKAR;SIGN YAKASH;ABBREVIATION SIGN"⟩,
  ⟨0xA81, "GUJARATI SIGN ", "CANDRABINDU;ANUSVARA;VISARGA"⟩,
  ⟨0xA85, "GUJARATI LETTER ", "A;AA;I;II"⟩,
  ⟨0xA89, "GUJARATI ", "LETTER U;LETTER UU;LETTER VOCALIC R;LETTER VOCALIC L;VOWEL CANDRA E"⟩,
  ⟨0xA8F, "GUJARATI ", "LETTER E;LETTER AI;VOWEL CANDRA O"⟩,
  ⟨0xA93, "GUJARATI LETTER ", "O;AU;KA;KHA;GA"⟩,
  ⟨0xA98, "GUJARATI LETTER ", "GHA;NGA;CA;CHA;JA;JHA;NYA;TTA;TTHA;DDA;DDHA;NNA;TA;THA;DA;DHA;NA"⟩,
  ⟨0xAAA, "GUJARATI LETTER ", "PA;PHA;BA;BHA;MA;YA;RA"⟩,
  ⟨0xAB2, "GUJARATI LETTER ", "LA;LLA"⟩,
  ⟨0xAB5, "GUJARATI LETTER ", "VA;SHA;SSA;SA;HA"⟩,
  ⟨0xABC, "GUJARATI SIGN ", "NUKTA;AVAGRAHA"⟩,
  ⟨0xABE, "GUJARATI VOWEL SIGN ", "AA;I;II;U;UU;VOCALIC R;VOCALIC RR;CANDRA E"⟩,
  ⟨0xAC7, "GUJARATI VOWEL SIGN ", "E;AI;CANDRA O"⟩,
  ⟨0xACB, "GUJARATI ", "VOWEL SIGN O;VOWEL SIGN AU;SIGN VIRAMA"⟩,
  ⟨0xAD0, "", "GUJARATI OM"⟩,
  ⟨0xAE0, "", "GUJARATI LETTER VOCALIC RR"⟩,
  ⟨0xAE1, "GUJARATI ", "LETTER VOCALIC LL;VOWEL SIGN VOCALIC L;VOWEL SIGN VOCALIC LL"⟩,
  ⟨0xAE6, "GUJARATI DIGIT ", "ZERO;ONE;TWO;THREE;FOUR;FIVE"⟩,
  ⟨0xAEC, "GUJARATI ", "DIGIT SIX;DIGIT SEVEN;DIGIT EIGHT;DIGIT NINE;ABBREVIATION SIGN;RUPEE SIGN"⟩,
  ⟨0xAF9, "GUJARATI ", "LETTER ZHA;SIGN SUKUN;SIGN SHADDA;SIGN MADDAH"⟩,
  ⟨0xAFD, "GUJARATI SIGN ", "THREE-DOT NUKTA ABOVE;CIRCLE NUKTA ABOVE;TWO-CIRCLE NUKTA ABOVE"⟩,
  ⟨0xB01, "ORIYA SIGN ", "CANDRABINDU;ANUSVARA;VISARGA"⟩,
  ⟨0xB05, "ORIYA LETTER ", "A;AA;I;II;U;UU;VOCALIC R;VOCALIC L"⟩,
  ⟨0xB0F, "ORIYA LETTER ", "E;AI"⟩,
  ⟨0xB13, "ORIYA LETTER ", "O;AU;KA;KHA"⟩,
  ⟨0xB17, "ORIYA LETTER ", "GA;GHA;NGA;CA;CHA;JA;JHA;NYA;TTA;TTHA;DDA;DDHA;NNA;TA;THA;DA;DHA;NA"⟩,
  ⟨0xB2A, "ORIYA LETTER ", "PA;PHA;BA;BHA;MA;YA;RA"⟩,
  ⟨0xB32, "ORIYA LETTER ", "LA;LLA"⟩,
  ⟨0xB35, "ORIYA LETTER ", "VA;SHA;SSA;SA;HA"⟩,
  ⟨0xB3C, "ORIYA SIGN ", "NUKTA;AVAGRAHA"⟩,
  ⟨0xB3E, "ORIYA VOWEL SIGN ", "AA;I;II;U;UU;VOCALIC R;VOCALIC RR"⟩,
  ⟨0xB47, "ORIYA VOWEL SIGN ", "E;AI"⟩,
  ⟨0xB4B, "ORIYA ", "VOWEL SIGN O;VOWEL SIGN AU;SIGN VIRAMA"⟩,
  ⟨0xB55, "ORIYA ", "SIGN OVERLINE;AI LENGTH MARK;AU LENGTH MARK"⟩,
  ⟨0xB5C, "ORIYA LETTER ", "RRA;RHA"⟩,
  ⟨0xB5F, "ORIYA LETTER ", "YYA;VOCALIC RR"⟩,
  ⟨0xB61, "ORIYA ", "LETTER VOCALIC LL;VOWEL SIGN VOCALIC L;VOWEL SIGN VOCALIC LL"⟩,
  ⟨0xB66, "ORIYA DIGIT ", "ZERO;ONE;TWO;THREE;FOUR;FIVE;SIX"⟩,
  ⟨0xB6D, "ORIYA ", "DIGIT SEVEN;DIGIT EIGHT;DIGIT NINE;ISSHAR;LETTER WA;FRACTION ONE QUARTER"⟩,
  ⟨0xB73, "ORIYA FRACTION ", "ONE HALF;THREE QUARTERS;ONE SIXTEENTH;ONE EIGHTH;THREE SIXTEENTHS"⟩,
  ⟨0xB82, "TAMIL SIGN ", "ANUSVARA;VISARGA"⟩,
  ⟨0xB85, "TAMIL LETTER ", "A;AA;I;II;U;UU"⟩,
  ⟨0xB8E, "TAMIL LETTER ", "E;EE;AI"⟩,
  ⟨0xB92, "TAMIL LETTER ", "O;OO;AU;KA"⟩,
  ⟨0xB99, "TAMIL LETTER ", "NGA;CA"⟩,
  ⟨0xB9C, "", "TAMIL LETTER JA"⟩,
  ⟨0xB9E, "TAMIL LETTER ", "NYA;TTA"⟩,
  ⟨0xBA3, "TAMIL LETTER ", "NNA;TA"⟩,
  ⟨0xBA8, "TAMIL LETTER ", "NA;NNNA;PA"⟩,
  ⟨0xBAE, "TAMIL LETTER ", "MA;YA;RA;RRA;LA;LLA;LLLA;VA;SHA;SSA;SA;HA"⟩,
  ⟨0xBBE, "TAMIL VOWEL SIGN ", "AA;I;II;U;UU"⟩,
  ⟨0xBC6, "TAMIL VOWEL SIGN ", "E;EE;AI"⟩,
  ⟨0xBCA, "TAMIL ", "VOWEL SIGN O;VOWEL SIGN OO;VOWEL SIGN AU;SIGN VIRAMA"⟩,
  ⟨0xBD0, "", "TAMIL OM"⟩,
  ⟨0xBD7, "", "TAMIL AU LENGTH MARK"⟩,
  ⟨0xBE6, "TAMIL DIGIT ", "ZERO;ONE;TWO;THREE;FOUR;FIVE;SIX;SEVEN;EIGHT;NINE"⟩,
  ⟨0xBF0, "TAMIL ", "NUMBER TEN;NUMBER ONE HUNDRED;NUMBER ONE THOUSAND;DAY SIGN;MONTH SIGN"⟩,
  ⟨0xBF5, "TAMIL ", "YEAR SIGN;DEBIT SIGN;CREDIT SIGN;AS ABOVE SIGN;RUPEE SIGN;NUMBER SIGN"⟩,
  ⟨0xC00, "", "TELUGU SIGN COMBINING CANDRABINDU ABOVE"⟩,
  ⟨0xC01, "TELUGU SIGN ", "CANDRABINDU;ANUSVARA;VISARGA;COMBINING ANUSVARA ABOVE"⟩,
  ⟨0xC05, "TELUGU LETTER ", "A;AA;I;II;U;UU;VOCALIC R;VOCALIC L"⟩,
  ⟨0xC0E, "TELUGU LETTER ", "E;EE;AI"⟩,
  ⟨0xC12, "TELUGU LETTER ", "O;OO;AU;KA;KHA"⟩,
  ⟨0xC17, "TELUGU LETTER ", "GA;GHA;NGA;CA;CHA;JA;JHA;NYA;TTA;TTHA;DDA;DDHA;NNA;TA;THA;DA;DHA;NA"⟩,
  ⟨0xC2A, "TELUGU LETTER ", "PA;PHA;BA;BHA;MA;YA;RA;RRA;LA;LLA;LLLA;VA;SHA;SSA;SA;HA"⟩,
  ⟨0xC3C, "TELUGU SIGN ", "NUKTA;AVAGRAHA"⟩,
  ⟨0xC3E, "TELUGU VOWEL SIGN ", "AA;I;II;U;UU;VOCALIC R;VOCALIC RR"⟩,
  ⟨0xC46, "TELUGU VOWEL SIGN ", "E;EE;AI"⟩,
  ⟨0xC4A, "TELUGU ", "VOWEL SIGN O;VOWEL SIGN OO;VOWEL SIGN AU;SIGN VIRAMA"⟩,
  ⟨0xC55, "TELUGU ", "LENGTH MARK;AI LENGTH MARK"⟩,
  ⟨0xC58, "TELUGU LETTER ", "TSA;DZA;RRRA"⟩,
  ⟨0xC5D, "", "TELUGU LETTER NAKAARA POLLU"⟩,
  ⟨0xC60, "", "TELUGU LETTER VOCALIC RR"⟩,
  ⟨0xC61, "TELUGU ", "LETTER VOCALIC LL;VOWEL SIGN VOCALIC L;VOWEL SIGN VOCALIC LL"⟩,
  ⟨0xC66, "TELUGU DIGIT ", "ZERO;ONE;TWO;THREE;FOUR;FIVE;SIX;SEVEN;EIGHT;NINE"⟩,
  ⟨0xC77, "", "TELUGU SIGN SIDDHAM"⟩,
  ⟨0xC78, "TELUGU FRACTION DIGIT ", "ZERO FOR ODD POWERS OF FOUR;ONE FOR ODD POWERS OF FOUR"⟩,
  ⟨0xC7A, "TELUGU FRACTION DIGIT ", "TWO FOR ODD POWERS OF FOUR;THREE FOR ODD POWERS OF FOUR"⟩,
  ⟨0xC7C, "TELUGU FRACTION DIGIT ", "ONE FOR EVEN POWERS OF FOUR;TWO FOR EVEN POWERS OF FOUR"⟩,
  ⟨0xC7E, "TELUGU ", "FRACTION DIGIT THREE FOR EVEN POWERS OF FOUR;SIGN TUUMU"⟩,
  ⟨0xC80, "KANNADA SIGN ", "SPACING CANDRABINDU;CANDRABINDU;ANUSVARA;VISARGA;SIDDHAM"⟩,
  ⟨0xC85, "KANNADA LETTER ", "A;AA;I;II;U;UU;VOCALIC R;VOCALIC L"⟩,
  ⟨0xC8E, "KANNADA LETTER ", "E;EE;AI"⟩,
  ⟨0xC92, "KANNADA LETTER ", "O;OO;AU;KA;KHA"⟩,
  ⟨0xC97, "KANNADA LETTER ", "GA;GHA;NGA;CA;CHA;JA;JHA;NYA;TTA;TTHA;DDA;DDHA;NNA;TA;THA;DA;DHA;NA"⟩,
  ⟨0xCAA, "KANNADA LETTER ", "PA;PHA;BA;BHA;MA;YA;RA;RRA;LA;LLA"⟩,
  ⟨0xCB5, "KANNADA LETTER ", "VA;SHA;SSA;SA;HA"⟩,
  ⟨0xCBC, "KANNADA SIGN ", "NUKTA;AVAGRAHA"⟩,
  ⟨0xCBE, "KANNADA VOWEL SIGN ", "AA;I;II;U;UU;VOCALIC R;VOCALIC RR"⟩,
  ⟨0xCC6, "KANNADA VOWEL SIGN ", "E;EE;AI"⟩,
  ⟨0xCCA, "KANNADA ", "VOWEL SIGN O;VOWEL SIGN OO;VOWEL SIGN AU;SIGN VIRAMA"⟩,
  ⟨0xCD5, "KANNADA ", "LENGTH MARK;AI LENGTH MARK"⟩,
  ⟨0xCDD, "KANNADA LETTER ", "NAKAARA POLLU;FA"⟩,
  ⟨0xCE0, "", "KANNADA LETTER VOCALIC RR"⟩,
  ⟨0xCE1, "KANNADA ", "LETTER VOCALIC LL;VOWEL SIGN VOCALIC L;VOWEL SIGN VOCALIC LL"⟩,
  ⟨0xCE6, "KANNADA DIGIT ", "ZERO;ONE;TWO;THREE;FOUR;FIVE;SIX;SEVEN;EIGHT;NINE"⟩,
  ⟨0xCF1, "KANNADA SIGN ", "JIHVAMULIYA;UPADHMANIYA"⟩,
  ⟨0xD00, "MALAYALAM SIGN ", "COMBINING ANUSVARA ABOVE;CANDRABINDU;ANUSVARA;VISARGA"⟩,
  ⟨0xD04, "MALAYALAM LETTER ", "VEDIC ANUSVARA;A;AA;I;II;U;UU;VOCALIC R;VOCALIC L"⟩,
  ⟨0xD0E, "MALAYALAM LETTER ", "E;EE;AI"⟩,
  ⟨0xD12, "MALAYALAM LETTER ", "O;OO;AU;KA;KHA"⟩,
  ⟨0xD17, "MALAYALAM LETTER ", "GA;GHA;NGA;CA;CHA;JA;JHA;NYA;TTA;TTHA;DDA;DDHA;NNA;TA;THA;DA;DHA"⟩,
  ⟨0xD28, "MALAYALAM LETTER ", "NA;NNNA;PA;PHA;BA;BHA;MA;YA;RA;RRA;LA;LLA;LLLA;VA;SHA;SSA;SA;HA"⟩,
  ⟨0xD3A, "MALAYALAM ", "LETTER TTTA;SIGN VERTICAL BAR VIRAMA;SIGN CIRCULAR VIRAMA;SIGN AVAGRAHA"⟩,
  ⟨0xD3E, "MALAYALAM VOWEL SIGN ", "AA;I;II;U;UU;VOCALIC R;VOCALIC RR"⟩,
  ⟨0xD46, "MALAYALAM VOWEL SIGN ", "E;EE;AI"⟩,
  ⟨0xD4A, "", "MALAYALAM VOWEL SIGN O"⟩,
  ⟨0xD4B, "MALAYALAM ", "VOWEL SIGN OO;VOWEL SIGN AU;SIGN VIRAMA;LETTER DOT REPH;SIGN PARA"⟩,
  ⟨0xD54, "MALAYALAM ", "LETTER CHILLU M;LETTER CHILLU Y;LETTER CHILLU LLL;AU LENGTH MARK"⟩,
  ⟨0xD58, "MALAYALAM FRACTION ONE ", "ONE-HUNDRED-AND-SIXTIETH;FORTIETH"⟩,
  ⟨0xD5A, "MALAYALAM FRACTION ", "THREE EIGHTIETHS;ONE TWENTIETH;ONE TENTH;THREE TWENTIETHS"⟩,
  ⟨0xD5E, "MALAYALAM ", "FRACTION ONE FIFTH;LETTER ARCHAIC II;LETTER VOCALIC RR"⟩,
  ⟨0xD61, "MALAYALAM ", "LETTER VOCALIC LL;VOWEL SIGN VOCALIC L;VOWEL SIGN VOCALIC LL"⟩,
  ⟨0xD66, "MALAYALAM DIGIT ", "ZERO;ONE;TWO;THREE;FOUR;FIVE;SIX;SEVEN"⟩,
  ⟨0xD6E, "MALAYALAM ", "DIGIT EIGHT;DIGIT NINE;NUMBER TEN;NUMBER ONE HUNDRED;NUMBER ONE THOUSAND"⟩,
  ⟨0xD73, "MALAYALAM FRACTION ", "ONE QUARTER;ONE HALF;THREE QUARTERS;ONE SIXTEENTH"⟩,
  ⟨0xD77, "MALAYALAM ", "FRACTION ONE EIGHTH;FRACTION THREE SIXTEENTHS;DATE MARK"⟩,
  ⟨0xD7A, "MALAYALAM LETTER CHILLU ", "NN;N;RR;L;LL;K"⟩,
  ⟨0xD81, "SINHALA SIGN ", "CANDRABINDU;ANUSVARAYA;VISARGAYA"⟩,
  ⟨0xD85, "SINHALA LETTER ", "AYANNA;AAYANNA"⟩,
  ⟨0xD87, "SINHALA LETTER ", "AEYANNA;AEEYANNA;IYANNA;IIYANNA;UYANNA;UUYANNA;IRUYANNA;IRUUYANNA"⟩,
  ⟨0xD8F, "SINHALA LETTER ", "ILUYANNA;ILUUYANNA;EYANNA;EEYANNA;AIYANNA;OYANNA;OOYANNA;AUYANNA"⟩,
  ⟨0xD9A, "SINHALA LETTER ", "ALPAPRAANA KAYANNA;MAHAAPRAANA KAYANNA;ALPAPRAANA GAYANNA"⟩,
  ⟨0xD9D, "SINHALA LETTER ", "MAHAAPRAANA GAYANNA;KANTAJA NAASIKYAYA;SANYAKA GAYANNA"⟩,
  ⟨0xDA0, "SINHALA LETTER ", "ALPAPRAANA CAYANNA;MAHAAPRAANA CAYANNA;ALPAPRAANA JAYANNA"⟩,
  ⟨0xDA3, "SINHALA LETTER ", "MAHAAPRAANA JAYANNA;TAALUJA NAASIKYAYA;TAALUJA SANYOOGA NAAKSIKYAYA"⟩,
  ⟨0xDA6, "SINHALA LETTER ", "SANYAKA JAYANNA;ALPAPRAANA TTAYANNA;MAHAAPRAANA TTAYANNA"⟩,
  ⟨0xDA9, "SINHALA LETTER ", "ALPAPRAANA DDAYANNA;MAHAAPRAANA DDAYANNA;MUURDHAJA NAYANNA"⟩,
  ⟨0xDAC, "SINHALA LETTER ", "SANYAKA DDAYANNA;ALPAPRAANA TAYANNA;MAHAAPRAANA TAYANNA"⟩,
  ⟨0xDAF, "SINHALA LETTER ", "ALPAPRAANA DAYANNA;MAHAAPRAANA DAYANNA;DANTAJA NAYANNA"⟩,
  ⟨0xDB3, "", "SINHALA LETTER SANYAKA DAYANNA"⟩,
  ⟨0xDB4, "SINHALA LETTER ", "ALPAPRAANA PAYANNA;MAHAAPRAANA PAYANNA;ALPAPRAANA BAYANNA"⟩,
  ⟨0xDB7, "SINHALA LETTER ", "MAHAAPRAANA BAYANNA;MAYANNA;AMBA BAYANNA;YAYANNA;RAYANNA"⟩,
  ⟨0xDBD, "", "SINHALA LETTER DANTAJA LAYANNA"⟩,
  ⟨0xDC0, "SINHALA LETTER ", "VAYANNA;TAALUJA SAYANNA"⟩,
  ⟨0xDC2, "SINHALA LETTER ", "MUURDHAJA SAYANNA;DANTAJA SAYANNA;HAYANNA;MUURDHAJA LAYANNA;FAYANNA"⟩,
  ⟨0xDCA, "", "SINHALA SIGN AL-LAKUNA"⟩,
  ⟨0xDCF, "SINHALA VOWEL SIGN ", "AELA-PILLA;KETTI AEDA-PILLA"⟩,
  ⟨0xDD1, "SINHALA VOWEL SIGN ", "DIGA AEDA-PILLA;KETTI IS-PILLA;DIGA IS-PILLA;KETTI PAA-PILLA"⟩,
  ⟨0xDD6, "", "SINHALA VOWEL SIGN DIGA PAA-PILLA"⟩,
  ⟨0xDD8, "", "SINHALA VOWEL SIGN GAETTA-PILLA"⟩,
  ⟨0xDD9, "SINHALA VOWEL SIGN ", "KOMBUVA;DIGA KOMBUVA;KOMBU DEKA;KOMBUVA HAA AELA-PILLA"⟩,
  ⟨0xDDD, "SINHALA VOWEL SIGN ", "KOMBUVA HAA DIGA AELA-PILLA;KOMBUVA HAA GAYANUKITTA;GAYANUKITTA"⟩,
  ⟨0xDE6, "SINHALA LITH DIGIT ", "ZERO;ONE;TWO;THREE;FOUR;FIVE;SIX;SEVEN;EIGHT;NINE"⟩,
  ⟨0xDF2, "", "SINHALA VOWEL SIGN DIGA GAETTA-PILLA"⟩,
  ⟨0xDF3, "SINHALA ", "VOWEL SIGN DIGA GAYANUKITTA;PUNCTUATION KUNDDALIYA"⟩]

/-- Thai, Lao, Myanmar and Georgian letters and signs. -/
def southEasternNames : List NameRun := [
  ⟨0xE01, "THAI CHARACTER ", "KO KAI;KHO KHAI;KHO KHUAT;KHO KHWAI;KHO KHON"⟩,
  ⟨0xE06, "THAI CHARACTER ", "KHO RAKHANG;NGO NGU;CHO CHAN;CHO CHING;CHO CHANG;SO SO;CHO CHOE"⟩,
  ⟨0xE0D, "THAI CHARACTER ", "YO YING;DO CHADA;TO PATAK;THO THAN;THO NANGMONTHO;THO PHUTHAO"⟩,
  ⟨0xE13, "THAI CHARACTER ", "NO NEN;DO DEK;TO TAO;THO THUNG;THO THAHAN;THO THONG;NO NU"⟩,
  ⟨0xE1A, "THAI CHARACTER ", "BO BAIMAI;PO PLA;PHO PHUNG;FO FA;PHO PHAN;FO FAN;PHO SAMPHAO;MO MA"⟩,
  ⟨0xE22, "THAI CHARACTER ", "YO YAK;RO RUA;RU;LO LING;LU;WO WAEN;SO SALA;SO RUSI;SO SUA;HO HIP"⟩,
  ⟨0xE2C, "THAI CHARACTER ", "LO CHULA;O ANG;HO NOKHUK;PAIYANNOI;SARA A;MAI HAN-AKAT;SARA AA"⟩,
  ⟨0xE33, "THAI CHARACTER ", "SARA AM;SARA I;SARA II;SARA UE;SARA UEE;SARA U;SARA UU;PHINTHU"⟩,
  ⟨0xE3F, "", "THAI CURRENCY SYMBOL BAHT"⟩,
  ⟨0xE40, "THAI CHARACTER SARA ", "E;AE;O;AI MAIMUAN"⟩,
  ⟨0xE44, "THAI CHARACTER ", "SARA AI MAIMALAI;LAKKHANGYAO;MAIYAMOK;MAITAIKHU;MAI EK"⟩,
  ⟨0xE49, "THAI CHARACTER ", "MAI THO;MAI TRI;MAI CHATTAWA;THANTHAKHAT;NIKHAHIT;YAMAKKAN;FONGMAN"⟩,
  ⟨0xE50, "THAI DIGIT ", "ZERO;ONE;TWO;THREE;FOUR;FIVE;SIX"⟩,
  ⟨0xE57, "THAI ", "DIGIT SEVEN;DIGIT EIGHT;DIGIT NINE;CHARACTER ANGKHANKHU;CHARACTER KHOMUT"⟩,
  ⟨0xE81, "LAO LETTER ", "KO;KHO SUNG"⟩,
  ⟨0xE84, "", "LAO LETTER KHO TAM"⟩,
  ⟨0xE86, "LAO LETTER ", "PALI GHA;NGO;CO;PALI CHA;SO TAM"⟩,
  ⟨0xE8C, "LAO LETTER ", "PALI JHA;NYO;PALI NYA;PALI TTA"⟩,
  ⟨0xE90, "LAO LETTER ", "PALI TTHA;PALI DDA;PALI DDHA;PALI NNA;DO;TO;THO SUNG;THO TAM;PALI DHA"⟩,
  ⟨0xE99, "LAO LETTER ", "NO;BO;PO;PHO SUNG;FO TAM;PHO TAM;FO SUNG;PALI BHA;MO;YO;LO LING"⟩,
  ⟨0xEA5, "", "LAO LETTER LO LOOT"⟩,
  ⟨0xEA7, "LAO LETTER ", "WO;SANSKRIT SHA;SANSKRIT SSA"⟩,
  ⟨0xEAA, "LAO ", "LETTER SO SUNG;LETTER HO SUNG;LETTER PALI LLA;LETTER O;LETTER HO TAM;ELLIPSIS"⟩,
  ⟨0xEB0, "LAO VOWEL SIGN ", "A;MAI KAN;AA;AM;I;II;Y;YY;U;UU"⟩,
  ⟨0xEBA, "LAO ", "SIGN PALI VIRAMA;VOWEL SIGN MAI KON;SEMIVOWEL SIGN LO;SEMIVOWEL SIGN NYO"⟩,
  ⟨0xEC0, "LAO VOWEL SIGN ", "E;EI;O;AY;AI"⟩,
  ⟨0xEC6, "", "LAO KO LA"⟩,
  ⟨0xEC8, "", "LAO TONE MAI EK"⟩,
  ⟨0xEC9, "LAO ", "TONE MAI THO;TONE MAI TI;TONE MAI CATAWA;CANCELLATION MARK;NIGGAHITA"⟩,
  ⟨0xED0, "LAO DIGIT ", "ZERO;ONE;TWO;THREE;FOUR;FIVE;SIX;SEVEN;EIGHT;NINE"⟩,
  ⟨0xEDC, "LAO ", "HO NO;HO MO;LETTER KHMU GO;LETTER KHMU NYO"⟩,
  ⟨0x1000, "MYANMAR LETTER ", "KA;KHA;GA;GHA;NGA;CA"⟩,
  ⟨0x1006, "MYANMAR LETTER ", "CHA;JA;JHA;NYA;NNYA;TTA;TTHA;DDA;DDHA;NNA;TA;THA;DA;DHA;NA;PA;PHA"⟩,
  ⟨0x1017, "MYANMAR LETTER ", "BA;BHA;MA;YA;RA;LA;WA;SA;HA;LLA;A;SHAN A;I;II;U;UU;E;MON E;O;AU"⟩,
  ⟨0x102B, "MYANMAR VOWEL SIGN ", "TALL AA;AA;I;II;U;UU;E;AI;MON II;MON O"⟩,
  ⟨0x1035, "MYANMAR ", "VOWEL SIGN E ABOVE;SIGN ANUSVARA;SIGN DOT BELOW;SIGN VISARGA"⟩,
  ⟨0x1039, "MYANMAR ", "SIGN VIRAMA;SIGN ASAT;CONSONANT SIGN MEDIAL YA;CONSONANT SIGN MEDIAL RA"⟩,
  ⟨0x103D, "MYANMAR ", "CONSONANT SIGN MEDIAL WA;CONSONANT SIGN MEDIAL HA;LETTER GREAT SA"⟩,
  ⟨0x1040, "MYANMAR DIGIT ", "ZERO;ONE;TWO;THREE;FOUR;FIVE;SIX"⟩,
  ⟨0x1047, "MYANMAR ", "DIGIT SEVEN;DIGIT EIGHT;DIGIT NINE;SIGN LITTLE SECTION;SIGN SECTION"⟩,
  ⟨0x104C, "MYANMAR SYMBOL ", "LOCATIVE;COMPLETED;AFOREMENTIONED;GENITIVE"⟩,
  ⟨0x1050, "MYANMAR LETTER ", "SHA;SSA;VOCALIC R;VOCALIC RR;VOCALIC L;VOCALIC LL"⟩,
  ⟨0x1056, "MYANMAR VOWEL SIGN VOCALIC ", "R;RR;L;LL"⟩,
  ⟨0x105A, "MYANMAR LETTER MON ", "NGA;JHA;BBA;BBE"⟩,
  ⟨0x105E, "MYANMAR CONSONANT SIGN MON MEDIAL ", "NA;MA;LA"⟩,
  ⟨0x1061, "MYANMAR ", "LETTER SGAW KAREN SHA;VOWEL SIGN SGAW KAREN EU"⟩,
  ⟨0x1063, "MYANMAR TONE MARK SGAW KAREN ", "HATHI;KE PHO"⟩,
  ⟨0x1065, "MYANMAR LETTER WESTERN PWO KAREN ", "THA;PWA"⟩,
  ⟨0x1067, "MYANMAR VOWEL SIGN WESTERN PWO KAREN ", "EU;UE"⟩,
  ⟨0x1069, "MYANMAR SIGN WESTERN PWO KAREN ", "TONE-1;TONE-2;TONE-3;TONE-4;TONE-5"⟩,
  ⟨0x106E, "MYANMAR LETTER EASTERN PWO KAREN ", "NNA;YWA;GHWA"⟩,
  ⟨0x1071, "MYANMAR VOWEL SIGN ", "GEBA KAREN I;KAYAH OE;KAYAH U;KAYAH EE"⟩,
  ⟨0x1075, "MYANMAR LETTER SHAN ", "KA;KHA;GA;CA;ZA;NYA;DA;NA;PHA;FA;BA"⟩,
  ⟨0x1080, "MYANMAR ", "LETTER SHAN THA;LETTER SHAN HA;CONSONANT SIGN SHAN MEDIAL WA"⟩,
  ⟨0x1083, "MYANMAR VOWEL SIGN SHAN ", "AA;E;E ABOVE;FINAL Y"⟩,
  ⟨0x1087, "MYANMAR SIGN SHAN ", "TONE-2;TONE-3;TONE-5"⟩,
  ⟨0x108A, "MYANMAR SIGN SHAN ", "TONE-6;COUNCIL TONE-2;COUNCIL TONE-3;COUNCIL EMPHATIC TONE"⟩,
  ⟨0x108E, "MYANMAR ", "LETTER RUMAI PALAUNG FA;SIGN RUMAI PALAUNG TONE-5"⟩,
  ⟨0x1090, "MYANMAR SHAN DIGIT ", "ZERO;ONE;TWO;THREE;FOUR;FIVE;SIX;SEVEN;EIGHT"⟩,
  ⟨0x1099, "MYANMAR ", "SHAN DIGIT NINE;SIGN KHAMTI TONE-1;SIGN KHAMTI TONE-3;VOWEL SIGN AITON A"⟩,
  ⟨0x109D, "MYANMAR ", "VOWEL SIGN AITON AI;SYMBOL SHAN ONE;SYMBOL SHAN EXCLAMATION"⟩,
  ⟨0x10A0, "GEORGIAN CAPITAL LETTER ", "AN;BAN;GAN;DON;EN;VIN;ZEN;TAN;IN;KAN"⟩,
  ⟨0x10AA, "GEORGIAN CAPITAL LETTER ", "LAS;MAN;NAR;ON;PAR;ZHAR;RAE;SAN;TAR;UN;PHAR;KHAR;GHAN;QAR"⟩,
  ⟨0x10B8, "GEORGIAN CAPITAL LETTER ", "SHIN;CHIN;CAN;JIL;CIL;CHAR;XAN;JHAN;HAE;HE;HIE;WE;HAR;HOE"⟩,
  ⟨0x10C7, "", "GEORGIAN CAPITAL LETTER YN"⟩,
  ⟨0x10CD, "", "GEORGIAN CAPITAL LETTER AEN"⟩,
  ⟨0x10D0, "GEORGIAN LETTER ", "AN;BAN;GAN;DON;EN;VIN;ZEN;TAN;IN;KAN;LAS;MAN;NAR"⟩,
  ⟨0x10DD, "GEORGIAN LETTER ", "ON;PAR;ZHAR;RAE;SAN;TAR;UN;PHAR;KHAR;GHAN;QAR;SHIN;CHIN;CAN;JIL"⟩,
  ⟨0x10EC, "GEORGIAN LETTER ", "CIL;CHAR;XAN;JHAN;HAE;HE;HIE;WE;HAR;HOE;FI;YN;ELIFI;TURNED GAN"⟩,
  ⟨0x10FA, "", "GEORGIAN LETTER AIN;GEORGIAN PARAGRAPH SEPARATOR;MODIFIER LETTER GEORGIAN NAR"⟩,
  ⟨0x10FD, "GEORGIAN LETTER ", "AEN;HARD SIGN;LABIAL SIGN"⟩]

/-- Parts of Hangul syllables, and Ethiopic, Cherokee, Runic and Khmer letters and signs. -/
def furtherScriptNames : List NameRun := [
  ⟨0x1100, "HANGUL CHOSEONG ", "KIYEOK;SSANGKIYEOK;NIEUN;TIKEUT;SSANGTIKEUT;RIEUL;MIEUM;PIEUP"⟩,
  ⟨0x1108, "HANGUL CHOSEONG ", "SSANGPIEUP;SIOS;SSANGSIOS;IEUNG;CIEUC;SSANGCIEUC;CHIEUCH;KHIEUKH"⟩,
  ⟨0x1110, "HANGUL CHOSEONG ", "THIEUTH;PHIEUPH;HIEUH;NIEUN-KIYEOK;SSANGNIEUN;NIEUN-TIKEUT"⟩,
  ⟨0x1116, "HANGUL CHOSEONG ", "NIEUN-PIEUP;TIKEUT-KIYEOK;RIEUL-NIEUN;SSANGRIEUL;RIEUL-HIEUH"⟩,
  ⟨0x111B, "HANGUL CHOSEONG ", "KAPYEOUNRIEUL;MIEUM-PIEUP;KAPYEOUNMIEUM;PIEUP-KIYEOK;PIEUP-NIEUN"⟩,
  ⟨0x1120, "HANGUL CHOSEONG ", "PIEUP-TIKEUT;PIEUP-SIOS;PIEUP-SIOS-KIYEOK;PIEUP-SIOS-TIKEUT"⟩,
  ⟨0x1124, "HANGUL CHOSEONG ", "PIEUP-SIOS-PIEUP;PIEUP-SSANGSIOS;PIEUP-SIOS-CIEUC;PIEUP-CIEUC"⟩,
  ⟨0x1128, "HANGUL CHOSEONG ", "PIEUP-CHIEUCH;PIEUP-THIEUTH;PIEUP-PHIEUPH;KAPYEOUNPIEUP"⟩,
  ⟨0x112C, "HANGUL CHOSEONG ", "KAPYEOUNSSANGPIEUP;SIOS-KIYEOK;SIOS-NIEUN;SIOS-TIKEUT"⟩,
  ⟨0x1130, "HANGUL CHOSEONG ", "SIOS-RIEUL;SIOS-MIEUM;SIOS-PIEUP;SIOS-PIEUP-KIYEOK;SIOS-SSANGSIOS"⟩,
  ⟨0x1135, "HANGUL CHOSEONG ", "SIOS-IEUNG;SIOS-CIEUC;SIOS-CHIEUCH;SIOS-KHIEUKH;SIOS-THIEUTH"⟩,
  ⟨0x113A, "HANGUL CHOSEONG ", "SIOS-PHIEUPH;SIOS-HIEUH;CHITUEUMSIOS;CHITUEUMSSANGSIOS"⟩,
  ⟨0x113E, "HANGUL CHOSEONG ", "CEONGCHIEUMSIOS;CEONGCHIEUMSSANGSIOS;PANSIOS;IEUNG-KIYEOK"⟩,
  ⟨0x1142, "HANGUL CHOSEONG ", "IEUNG-TIKEUT;IEUNG-MIEUM;IEUNG-PIEUP;IEUNG-SIOS;IEUNG-PANSIOS"⟩,
  ⟨0x1147, "HANGUL CHOSEONG ", "SSANGIEUNG;IEUNG-CIEUC;IEUNG-CHIEUCH;IEUNG-THIEUTH;IEUNG-PHIEUPH"⟩,
  ⟨0x114C, "HANGUL CHOSEONG ", "YESIEUNG;CIEUC-IEUNG;CHITUEUMCIEUC;CHITUEUMSSANGCIEUC"⟩,
  ⟨0x1150, "HANGUL CHOSEONG ", "CEONGCHIEUMCIEUC;CEONGCHIEUMSSANGCIEUC;CHIEUCH-KHIEUKH"⟩,
  ⟨0x1153, "HANGUL CHOSEONG ", "CHIEUCH-HIEUH;CHITUEUMCHIEUCH;CEONGCHIEUMCHIEUCH;PHIEUPH-PIEUP"⟩,
  ⟨0x1157, "HANGUL CHOSEONG ", "KAPYEOUNPHIEUPH;SSANGHIEUH;YEORINHIEUH;KIYEOK-TIKEUT"⟩,
  ⟨0x115B, "HANGUL CHOSEONG ", "NIEUN-SIOS;NIEUN-CIEUC;NIEUN-HIEUH;TIKEUT-RIEUL;FILLER"⟩,
  ⟨0x1160, "HANGUL JUNGSEONG ", "FILLER;A;AE;YA;YAE;EO;E;YEO"⟩,
  ⟨0x1168, "HANGUL JUNGSEONG ", "YE;O;WA;WAE;OE;YO;U;WEO;WE;WI;YU;EU;YI;I;A-O;A-U;YA-O;YA-YO;EO-O"⟩,
  ⟨0x117B, "HANGUL JUNGSEONG ", "EO-U;EO-EU;YEO-O;YEO-U;O-EO;O-E;O-YE;O-O;O-U;YO-YA;YO-YAE;YO-YEO"⟩,
  ⟨0x1187, "HANGUL JUNGSEONG ", "YO-O;YO-I;U-A;U-AE;U-EO-EU;U-YE;U-U;YU-A;YU-EO;YU-E;YU-YEO"⟩,
  ⟨0x1192, "HANGUL JUNGSEONG ", "YU-YE;YU-U;YU-I;EU-U;EU-EU;YI-U;I-A;I-YA;I-O;I-U;I-EU;I-ARAEA"⟩,
  ⟨0x119E, "HANGUL JUNGSEONG ", "ARAEA;ARAEA-EO;ARAEA-U;ARAEA-I;SSANGARAEA;A-EU;YA-U;YEO-YA"⟩,
  ⟨0x11A6, "HANGUL ", "JUNGSEONG O-YA;JUNGSEONG O-YAE;JONGSEONG KIYEOK;JONGSEONG SSANGKIYEOK"⟩,
  ⟨0x11AA, "HANGUL JONGSEONG ", "KIYEOK-SIOS;NIEUN;NIEUN-CIEUC;NIEUN-HIEUH;TIKEUT;RIEUL"⟩,
  ⟨0x11B0, "HANGUL JONGSEONG ", "RIEUL-KIYEOK;RIEUL-MIEUM;RIEUL-PIEUP;RIEUL-SIOS;RIEUL-THIEUTH"⟩,
  ⟨0x11B5, "HANGUL JONGSEONG ", "RIEUL-PHIEUPH;RIEUL-HIEUH;MIEUM;PIEUP;PIEUP-SIOS;SIOS;SSANGSIOS"⟩,
  ⟨0x11BC, "HANGUL JONGSEONG ", "IEUNG;CIEUC;CHIEUCH;KHIEUKH;THIEUTH;PHIEUPH;HIEUH;KIYEOK-RIEUL"⟩,
  ⟨0x11C4, "HANGUL JONGSEONG ", "KIYEOK-SIOS-KIYEOK;NIEUN-KIYEOK;NIEUN-TIKEUT;NIEUN-SIOS"⟩,
  ⟨0x11C8, "HANGUL JONGSEONG ", "NIEUN-PANSIOS;NIEUN-THIEUTH;TIKEUT-KIYEOK;TIKEUT-RIEUL"⟩,
  ⟨0x11CC, "HANGUL JONGSEONG ", "RIEUL-KIYEOK-SIOS;RIEUL-NIEUN;RIEUL-TIKEUT;RIEUL-TIKEUT-HIEUH"⟩,
  ⟨0x11D0, "HANGUL JONGSEONG ", "SSANGRIEUL;RIEUL-MIEUM-KIYEOK;RIEUL-MIEUM-SIOS;RIEUL-PIEUP-SIOS"⟩,
  ⟨0x11D4, "HANGUL JONGSEONG ", "RIEUL-PIEUP-HIEUH;RIEUL-KAPYEOUNPIEUP;RIEUL-SSANGSIOS"⟩,
  ⟨0x11D7, "HANGUL JONGSEONG ", "RIEUL-PANSIOS;RIEUL-KHIEUKH;RIEUL-YEORINHIEUH;MIEUM-KIYEOK"⟩,
  ⟨0x11DB, "HANGUL JONGSEONG ", "MIEUM-RIEUL;MIEUM-PIEUP;MIEUM-SIOS;MIEUM-SSANGSIOS;MIEUM-PANSIOS"⟩,
  ⟨0x11E0, "HANGUL JONGSEONG ", "MIEUM-CHIEUCH;MIEUM-HIEUH;KAPYEOUNMIEUM;PIEUP-RIEUL"⟩,
  ⟨0x11E4, "HANGUL JONGSEONG ", "PIEUP-PHIEUPH;PIEUP-HIEUH;KAPYEOUNPIEUP;SIOS-KIYEOK;SIOS-TIKEUT"⟩,
  ⟨0x11E9, "HANGUL JONGSEONG ", "SIOS-RIEUL;SIOS-PIEUP;PANSIOS;IEUNG-KIYEOK;IEUNG-SSANGKIYEOK"⟩,
  ⟨0x11EE, "HANGUL JONGSEONG ", "SSANGIEUNG;IEUNG-KHIEUKH;YESIEUNG;YESIEUNG-SIOS;YESIEUNG-PANSIOS"⟩,
  ⟨0x11F3, "HANGUL JONGSEONG ", "PHIEUPH-PIEUP;KAPYEOUNPHIEUPH;HIEUH-NIEUN;HIEUH-RIEUL"⟩,
  ⟨0x11F7, "HANGUL JONGSEONG ", "HIEUH-MIEUM;HIEUH-PIEUP;YEORINHIEUH;KIYEOK-NIEUN;KIYEOK-PIEUP"⟩,
  ⟨0x11FC, "HANGUL JONGSEONG ", "KIYEOK-CHIEUCH;KIYEOK-KHIEUKH;KIYEOK-HIEUH;SSANGNIEUN"⟩,
  ⟨0x1200, "ETHIOPIC SYLLABLE ", "HA;HU;HI;HAA;HEE;HE"⟩,
  ⟨0x1206, "ETHIOPIC SYLLABLE ", "HO;HOA;LA;LU;LI;LAA;LEE;LE;LO;LWA;HHA;HHU;HHI;HHAA;HHEE;HHE;HHO"⟩,
  ⟨0x1217, "ETHIOPIC SYLLABLE ", "HHWA;MA;MU;MI;MAA;MEE;ME;MO;MWA;SZA;SZU;SZI;SZAA;SZEE;SZE;SZO"⟩,
  ⟨0x1227, "ETHIOPIC SYLLABLE ", "SZWA;RA;RU;RI;RAA;REE;RE;RO;RWA;SA;SU;SI;SAA;SEE;SE;SO;SWA;SHA"⟩,
  ⟨0x1239, "ETHIOPIC SYLLABLE ", "SHU;SHI;SHAA;SHEE;SHE;SHO;SHWA;QA;QU;QI;QAA;QEE;QE;QO;QOA;QWA"⟩,
  ⟨0x124A, "ETHIOPIC SYLLABLE ", "QWI;QWAA;QWEE;QWE"⟩,
  ⟨0x1250, "ETHIOPIC SYLLABLE ", "QHA;QHU;QHI;QHAA;QHEE;QHE;QHO"⟩,
  ⟨0x1258, "", "ETHIOPIC SYLLABLE QHWA"⟩,
  ⟨0x125A, "ETHIOPIC SYLLABLE ", "QHWI;QHWAA;QHWEE;QHWE"⟩,
  ⟨0x1260, "ETHIOPIC SYLLABLE ", "BA;BU;BI;BAA"⟩,
  ⟨0x1264, "ETHIOPIC SYLLABLE ", "BEE;BE;BO;BWA;VA;VU;VI;VAA;VEE;VE;VO;VWA;TA;TU;TI;TAA;TEE;TE;TO"⟩,
  ⟨0x1277, "ETHIOPIC SYLLABLE ", "TWA;CA;CU;CI;CAA;CEE;CE;CO;CWA;XA;XU;XI;XAA;XEE;XE;XO;XOA;XWA"⟩,
  ⟨0x128A, "ETHIOPIC SYLLABLE ", "XWI;XWAA;XWEE;XWE"⟩,
  ⟨0x1290, "ETHIOPIC SYLLABLE ", "NA;NU;NI;NAA;NEE;NE;NO;NWA;NYA;NYU;NYI;NYAA;NYEE;NYE"⟩,
  ⟨0x129E, "ETHIOPIC SYLLABLE ", "NYO;NYWA;GLOTTAL A;GLOTTAL U;GLOTTAL I;GLOTTAL AA;GLOTTAL EE"⟩,
  ⟨0x12A5, "ETHIOPIC SYLLABLE ", "GLOTTAL E;GLOTTAL O;GLOTTAL WA;KA;KU;KI;KAA;KEE;KE;KO;KOA;KWA"⟩,
  ⟨0x12B2, "ETHIOPIC SYLLABLE ", "KWI;KWAA;KWEE;KWE"⟩,
  ⟨0x12B8, "ETHIOPIC SYLLABLE ", "KXA;KXU;KXI;KXAA;KXEE;KXE;KXO"⟩,
  ⟨0x12C0, "", "ETHIOPIC SYLLABLE KXWA"⟩,
  ⟨0x12C2, "ETHIOPIC SYLLABLE ", "KXWI;KXWAA;KXWEE;KXWE"⟩,
  ⟨0x12C8, "ETHIOPIC SYLLABLE ", "WA;WU;WI;WAA;WEE;WE;WO;WOA"⟩,
  ⟨0x12D0, "ETHIOPIC SYLLABLE PHARYNGEAL ", "A;U;I;AA;EE;E;O"⟩,
  ⟨0x12D8, "ETHIOPIC SYLLABLE ", "ZA;ZU;ZI;ZAA;ZEE;ZE"⟩,
  ⟨0x12DE, "ETHIOPIC SYLLABLE ", "ZO;ZWA;ZHA;ZHU;ZHI;ZHAA;ZHEE;ZHE;ZHO;ZHWA;YA;YU;YI;YAA;YEE;YE"⟩,
  ⟨0x12EE, "ETHIOPIC SYLLABLE ", "YO;YOA;DA;DU;DI;DAA;DEE;DE;DO;DWA;DDA;DDU;DDI;DDAA;DDEE;DDE;DDO"⟩,
  ⟨0x12FF, "ETHIOPIC SYLLABLE ", "DDWA;JA;JU;JI;JAA;JEE;JE;JO;JWA;GA;GU;GI;GAA;GEE;GE;GO;GOA;GWA"⟩,
  ⟨0x1312, "ETHIOPIC SYLLABLE ", "GWI;GWAA;GWEE;GWE"⟩,
  ⟨0x1318, "ETHIOPIC SYLLABLE ", "GGA;GGU;GGI;GGAA;GGEE;GGE;GGO"⟩,
  ⟨0x131F, "ETHIOPIC SYLLABLE ", "GGWAA;THA;THU;THI;THAA;THEE;THE;THO;THWA;CHA;CHU;CHI;CHAA;CHEE"⟩,
  ⟨0x132D, "ETHIOPIC SYLLABLE ", "CHE;CHO;CHWA;PHA;PHU;PHI;PHAA;PHEE;PHE;PHO;PHWA;TSA;TSU;TSI"⟩,
  ⟨0x133B, "ETHIOPIC SYLLABLE ", "TSAA;TSEE;TSE;TSO;TSWA;TZA;TZU;TZI;TZAA;TZEE;TZE;TZO;TZOA;FA"⟩,
  ⟨0x1349, "ETHIOPIC SYLLABLE ", "FU;FI;FAA;FEE;FE;FO;FWA;PA;PU;PI;PAA;PEE;PE;PO;PWA;RYA;MYA;FYA"⟩,
  ⟨0x135D, "ETHIOPIC COMBINING ", "GEMINATION AND VOWEL LENGTH MARK;VOWEL LENGTH MARK"⟩,
  ⟨0x135F, "ETHIOPIC ", "COMBINING GEMINATION MARK;SECTION MARK;WORDSPACE;FULL STOP"⟩,
  ⟨0x1363, "ETHIOPIC ", "COMMA;SEMICOLON;COLON;PREFACE COLON;QUESTION MARK;PARAGRAPH SEPARATOR"⟩,
  ⟨0x1369, "ETHIOPIC DIGIT ", "ONE;TWO;THREE;FOUR;FIVE;SIX;SEVEN"⟩,
  ⟨0x1370, "ETHIOPIC ", "DIGIT EIGHT;DIGIT NINE;NUMBER TEN;NUMBER TWENTY;NUMBER THIRTY"⟩,
  ⟨0x1375, "ETHIOPIC NUMBER ", "FORTY;FIFTY;SIXTY;SEVENTY;EIGHTY;NINETY;HUNDRED;TEN THOUSAND"⟩,
  ⟨0x13A0, "CHEROKEE LETTER ", "A;E;I;O;U;V;GA"⟩,
  ⟨0x13A7, "CHEROKEE LETTER ", "KA;GE;GI;GO;GU;GV;HA;HE;HI;HO;HU;HV;LA;LE;LI;LO;LU;LV;MA;ME;MI;MO"⟩,
  ⟨0x13BD, "CHEROKEE LETTER ", "MU;NA;HNA;NAH;NE;NI;NO;NU;NV;QUA;QUE;QUI;QUO;QUU;QUV;SA;S;SE;SI"⟩,
  ⟨0x13D0, "CHEROKEE LETTER ", "SO;SU;SV;DA;TA;DE;TE;DI;TI;DO;DU;DV;DLA;TLA;TLE;TLI;TLO;TLU;TLV"⟩,
  ⟨0x13E3, "CHEROKEE LETTER ", "TSA;TSE;TSI;TSO;TSU;TSV;WA;WE;WI;WO;WU;WV;YA;YE;YI;YO;YU;YV;MV"⟩,
  ⟨0x13F8, "CHEROKEE SMALL LETTER ", "YE;YI;YO;YU;YV;MV"⟩,
  ⟨0x16A0, "RUNIC LETTER ", "FEHU FEOH FE F;V;URUZ UR U;YR;Y;W;THURISAZ THURS THORN;ETH"⟩,
  ⟨0x16A8, "RUNIC LETTER ", "ANSUZ A;OS O;AC A;AESC;LONG-BRANCH-OSS O;SHORT-TWIG-OSS O;O;OE;ON"⟩,
  ⟨0x16B1, "RUNIC LETTER ", "RAIDO RAD REID R;KAUNA;CEN;KAUN K;G;ENG;GEBO GYFU G;GAR;WUNJO WYNN W"⟩,
  ⟨0x16BA, "RUNIC LETTER ", "HAGLAZ H;HAEGL H;LONG-BRANCH-HAGALL H;SHORT-TWIG-HAGALL H"⟩,
  ⟨0x16BE, "RUNIC LETTER ", "NAUDIZ NYD NAUD N;SHORT-TWIG-NAUD N;DOTTED-N;ISAZ IS ISS I;E;JERAN J"⟩,
  ⟨0x16C4, "RUNIC LETTER ", "GER;LONG-BRANCH-AR AE;SHORT-TWIG-AR A;IWAZ EOH;PERTHO PEORTH P"⟩,
  ⟨0x16C9, "RUNIC LETTER ", "ALGIZ EOLHX;SOWILO S;SIGEL LONG-BRANCH-SOL S;SHORT-TWIG-SOL S"⟩,
  ⟨0x16CD, "RUNIC LETTER ", "C;Z;TIWAZ TIR TYR T;SHORT-TWIG-TYR T;D;BERKANAN BEORC BJARKAN B"⟩,
  ⟨0x16D3, "RUNIC LETTER ", "SHORT-TWIG-BJARKAN B;DOTTED-P;OPEN-P;EHWAZ EH E"⟩,
  ⟨0x16D7, "RUNIC LETTER ", "MANNAZ MAN M;LONG-BRANCH-MADR M;SHORT-TWIG-MADR M;LAUKAZ LAGU LOGR L"⟩,
  ⟨0x16DB, "RUNIC LETTER ", "DOTTED-L;INGWAZ;ING;DAGAZ DAEG D;OTHALAN ETHEL O;EAR;IOR"⟩,
  ⟨0x16E2, "RUNIC LETTER ", "CWEORTH;CALC;CEALC;STAN;LONG-BRANCH-YR;SHORT-TWIG-YR;ICELANDIC-YR"⟩,
  ⟨0x16E9, "RUNIC ", "LETTER Q;LETTER X;SINGLE PUNCTUATION;MULTIPLE PUNCTUATION;CROSS PUNCTUATION"⟩,
  ⟨0x16EE, "RUNIC ", "ARLAUG SYMBOL;TVIMADUR SYMBOL;BELGTHOR SYMBOL;LETTER K;LETTER SH;LETTER OO"⟩,
  ⟨0x16F4, "RUNIC LETTER FRANKS CASKET ", "OS;IS;EH;AC;AESC"⟩,
  ⟨0x1780, "KHMER LETTER ", "KA;KHA;KO;KHO;NGO;CA;CHA;CO;CHO;NYO;DA;TTHA;DO;TTHO;NNO"⟩,
  ⟨0x178F, "KHMER LETTER ", "TA;THA;TO;THO;NO;BA;PHA;PO;PHO;MO;YO;RO;LO;VO;SHA;SSO;SA;HA;LA;QA"⟩,
  ⟨0x17A3, "KHMER INDEPENDENT VOWEL ", "QAQ;QAA;QI;QII;QU;QUK"⟩,
  ⟨0x17A9, "KHMER INDEPENDENT VOWEL ", "QUU;QUUV;RY;RYY;LY;LYY;QE;QAI;QOO TYPE ONE;QOO TYPE TWO"⟩,
  ⟨0x17B3, "KHMER ", "INDEPENDENT VOWEL QAU;VOWEL INHERENT AQ;VOWEL INHERENT AA"⟩,
  ⟨0x17B6, "KHMER VOWEL SIGN ", "AA;I;II;Y;YY;U;UU;UA;OE;YA;IE;E;AE;AI;OO;AU"⟩,
  ⟨0x17C6, "KHMER SIGN ", "NIKAHIT;REAHMUK;YUUKALEAPINTU;MUUSIKATOAN;TRIISAP"⟩,
  ⟨0x17CB, "KHMER SIGN ", "BANTOC;ROBAT;TOANDAKHIAT;KAKABAT;AHSDA;SAMYOK SANNYA;VIRIAM;COENG"⟩,
  ⟨0x17D3, "KHMER SIGN ", "BATHAMASAT;KHAN;BARIYOOSAN;CAMNUC PII KUUH;LEK TOO;BEYYAL;PHNAEK MUAN"⟩,
  ⟨0x17DA, "KHMER ", "SIGN KOOMUUT;CURRENCY SYMBOL RIEL;SIGN AVAKRAHASANYA;SIGN ATTHACAN"⟩,
  ⟨0x17E0, "KHMER DIGIT ", "ZERO;ONE;TWO;THREE;FOUR;FIVE;SIX;SEVEN;EIGHT;NINE"⟩,
  ⟨0x17F0, "KHMER SYMBOL LEK ATTAK ", "SON;MUOY"⟩,
  ⟨0x17F2, "KHMER SYMBOL LEK ATTAK ", "PII;BEI;BUON;PRAM;PRAM-MUOY;PRAM-PII;PRAM-BEI;PRAM-BUON"⟩]

/-- Further Latin and Greek letters with accents. -/
def accentedNames : List NameRun := [
  ⟨0x1E00, "", "LATIN CAPITAL LETTER A WITH RING BELOW"⟩,
  ⟨0x1E01, "LATIN ", "SMALL LETTER A WITH RING BELOW;CAPITAL LETTER B WITH DOT ABOVE"⟩,
  ⟨0x1E03, "LATIN ", "SMALL LETTER B WITH DOT ABOVE;CAPITAL LETTER B WITH DOT BELOW"⟩,
  ⟨0x1E05, "LATIN ", "SMALL LETTER B WITH DOT BELOW;CAPITAL LETTER B WITH LINE BELOW"⟩,
  ⟨0x1E07, "LATIN ", "SMALL LETTER B WITH LINE BELOW;CAPITAL LETTER C WITH CEDILLA AND ACUTE"⟩,
  ⟨0x1E09, "LATIN ", "SMALL LETTER C WITH CEDILLA AND ACUTE;CAPITAL LETTER D WITH DOT ABOVE"⟩,
  ⟨0x1E0B, "LATIN ", "SMALL LETTER D WITH DOT ABOVE;CAPITAL LETTER D WITH DOT BELOW"⟩,
  ⟨0x1E0D, "LATIN ", "SMALL LETTER D WITH DOT BELOW;CAPITAL LETTER D WITH LINE BELOW"⟩,
  ⟨0x1E0F, "LATIN ", "SMALL LETTER D WITH LINE BELOW;CAPITAL LETTER D WITH CEDILLA"⟩,
  ⟨0x1E11, "LATIN ", "SMALL LETTER D WITH CEDILLA;CAPITAL LETTER D WITH CIRCUMFLEX BELOW"⟩,
  ⟨0x1E13, "LATIN ", "SMALL LETTER D WITH CIRCUMFLEX BELOW;CAPITAL LETTER E WITH MACRON AND GRAVE"⟩,
  ⟨0x1E15, "LATIN ", "SMALL LETTER E WITH MACRON AND GRAVE;CAPITAL LETTER E WITH MACRON AND ACUTE"⟩,
  ⟨0x1E17, "LATIN ", "SMALL LETTER E WITH MACRON AND ACUTE;CAPITAL LETTER E WITH CIRCUMFLEX BELOW"⟩,
  ⟨0x1E19, "LATIN ", "SMALL LETTER E WITH CIRCUMFLEX BELOW;CAPITAL LETTER E WITH TILDE BELOW"⟩,
  ⟨0x1E1B, "LATIN ", "SMALL LETTER E WITH TILDE BELOW;CAPITAL LETTER E WITH CEDILLA AND BREVE"⟩,
  ⟨0x1E1D, "LATIN ", "SMALL LETTER E WITH CEDILLA AND BREVE;CAPITAL LETTER F WITH DOT ABOVE"⟩,
  ⟨0x1E1F, "LATIN ", "SMALL LETTER F WITH DOT ABOVE;CAPITAL LETTER G WITH MACRON"⟩,
  ⟨0x1E21, "LATIN ", "SMALL LETTER G WITH MACRON;CAPITAL LETTER H WITH DOT ABOVE"⟩,
  ⟨0x1E23, "LATIN ", "SMALL LETTER H WITH DOT ABOVE;CAPITAL LETTER H WITH DOT BELOW"⟩,
  ⟨0x1E25, "LATIN ", "SMALL LETTER H WITH DOT BELOW;CAPITAL LETTER H WITH DIAERESIS"⟩,
  ⟨0x1E27, "LATIN ", "SMALL LETTER H WITH DIAERESIS;CAPITAL LETTER H WITH CEDILLA"⟩,
  ⟨0x1E29, "LATIN ", "SMALL LETTER H WITH CEDILLA;CAPITAL LETTER H WITH BREVE BELOW"⟩,
  ⟨0x1E2B, "LATIN ", "SMALL LETTER H WITH BREVE BELOW;CAPITAL LETTER I WITH TILDE BELOW"⟩,
  ⟨0x1E2D, "LATIN ", "SMALL LETTER I WITH TILDE BELOW;CAPITAL LETTER I WITH DIAERESIS AND ACUTE"⟩,
  ⟨0x1E2F, "LATIN ", "SMALL LETTER I WITH DIAERESIS AND ACUTE;CAPITAL LETTER K WITH ACUTE"⟩,
  ⟨0x1E31, "LATIN ", "SMALL LETTER K WITH ACUTE;CAPITAL LETTER K WITH DOT BELOW"⟩,
  ⟨0x1E33, "LATIN ", "SMALL LETTER K WITH DOT BELOW;CAPITAL LETTER K WITH LINE BELOW"⟩,
  ⟨0x1E35, "LATIN ", "SMALL LETTER K WITH LINE BELOW;CAPITAL LETTER L WITH DOT BELOW"⟩,
  ⟨0x1E37, "LATIN ", "SMALL LETTER L WITH DOT BELOW;CAPITAL LETTER L WITH DOT BELOW AND MACRON"⟩,
  ⟨0x1E39, "", "LATIN SMALL LETTER L WITH DOT BELOW AND MACRON"⟩,
  ⟨0x1E3A, "LATIN ", "CAPITAL LETTER L WITH LINE BELOW;SMALL LETTER L WITH LINE BELOW"⟩,
  ⟨0x1E3C, "LATIN ", "CAPITAL LETTER L WITH CIRCUMFLEX BELOW;SMALL LETTER L WITH CIRCUMFLEX BELOW"⟩,
  ⟨0x1E3E, "LATIN ", "CAPITAL LETTER M WITH ACUTE;SMALL LETTER M WITH ACUTE"⟩,
  ⟨0x1E40, "LATIN ", "CAPITAL LETTER M WITH DOT ABOVE;SMALL LETTER M WITH DOT ABOVE"⟩,
  ⟨0x1E42, "LATIN ", "CAPITAL LETTER M WITH DOT BELOW;SMALL LETTER M WITH DOT BELOW"⟩,
  ⟨0x1E44, "LATIN ", "CAPITAL LETTER N WITH DOT ABOVE;SMALL LETTER N WITH DOT ABOVE"⟩,
  ⟨0x1E46, "LATIN ", "CAPITAL LETTER N WITH DOT BELOW;SMALL LETTER N WITH DOT BELOW"⟩,
  ⟨0x1E48, "LATIN ", "CAPITAL LETTER N WITH LINE BELOW;SMALL LETTER N WITH LINE BELOW"⟩,
  ⟨0x1E4A, "LATIN ", "CAPITAL LETTER N WITH CIRCUMFLEX BELOW;SMALL LETTER N WITH CIRCUMFLEX BELOW"⟩,
  ⟨0x1E4C, "LATIN ", "CAPITAL LETTER O WITH TILDE AND ACUTE;SMALL LETTER O WITH TILDE AND ACUTE"⟩,
  ⟨0x1E4E, "", "LATIN CAPITAL LETTER O WITH TILDE AND DIAERESIS"⟩,
  ⟨0x1E4F, "", "LATIN SMALL LETTER O WITH TILDE AND DIAERESIS"⟩,
  ⟨0x1E50, "", "LATIN CAPITAL LETTER O WITH MACRON AND GRAVE"⟩,
  ⟨0x1E51, "LATIN ", "SMALL LETTER O WITH MACRON AND GRAVE;CAPITAL LETTER O WITH MACRON AND ACUTE"⟩,
  ⟨0x1E53, "LATIN ", "SMALL LETTER O WITH MACRON AND ACUTE;CAPITAL LETTER P WITH ACUTE"⟩,
  ⟨0x1E55, "LATIN ", "SMALL LETTER P WITH ACUTE;CAPITAL LETTER P WITH DOT ABOVE"⟩,
  ⟨0x1E57, "LATIN ", "SMALL LETTER P WITH DOT ABOVE;CAPITAL LETTER R WITH DOT ABOVE"⟩,
  ⟨0x1E59, "LATIN ", "SMALL LETTER R WITH DOT ABOVE;CAPITAL LETTER R WITH DOT BELOW"⟩,
  ⟨0x1E5B, "LATIN ", "SMALL LETTER R WITH DOT BELOW;CAPITAL LETTER R WITH DOT BELOW AND MACRON"⟩,
  ⟨0x1E5D, "LATIN ", "SMALL LETTER R WITH DOT BELOW AND MACRON;CAPITAL LETTER R WITH LINE BELOW"⟩,
  ⟨0x1E5F, "LATIN ", "SMALL LETTER R WITH LINE BELOW;CAPITAL LETTER S WITH DOT ABOVE"⟩,
  ⟨0x1E61, "LATIN ", "SMALL LETTER S WITH DOT ABOVE;CAPITAL LETTER S WITH DOT BELOW"⟩,
  ⟨0x1E63, "LATIN ", "SMALL LETTER S WITH DOT BELOW;CAPITAL LETTER S WITH ACUTE AND DOT ABOVE"⟩,
  ⟨0x1E65, "", "LATIN SMALL LETTER S WITH ACUTE AND DOT ABOVE"⟩,
  ⟨0x1E66, "", "LATIN CAPITAL LETTER S WITH CARON AND DOT ABOVE"⟩,
  ⟨0x1E67, "", "LATIN SMALL LETTER S WITH CARON AND DOT ABOVE"⟩,
  ⟨0x1E68, "", "LATIN CAPITAL LETTER S WITH DOT BELOW AND DOT ABOVE"⟩,
  ⟨0x1E69, "", "LATIN SMALL LETTER S WITH DOT BELOW AND DOT ABOVE"⟩,
  ⟨0x1E6A, "LATIN ", "CAPITAL LETTER T WITH DOT ABOVE;SMALL LETTER T WITH DOT ABOVE"⟩,
  ⟨0x1E6C, "LATIN ", "CAPITAL LETTER T WITH DOT BELOW;SMALL LETTER T WITH DOT BELOW"⟩,
  ⟨0x1E6E, "LATIN ", "CAPITAL LETTER T WITH LINE BELOW;SMALL LETTER T WITH LINE BELOW"⟩,
  ⟨0x1E70, "LATIN ", "CAPITAL LETTER T WITH CIRCUMFLEX BELOW;SMALL LETTER T WITH CIRCUMFLEX BELOW"⟩,
  ⟨0x1E72, "LATIN ", "CAPITAL LETTER U WITH DIAERESIS BELOW;SMALL LETTER U WITH DIAERESIS BELOW"⟩,
  ⟨0x1E74, "LATIN ", "CAPITAL LETTER U WITH TILDE BELOW;SMALL LETTER U WITH TILDE BELOW"⟩,
  ⟨0x1E76, "LATIN ", "CAPITAL LETTER U WITH CIRCUMFLEX BELOW;SMALL LETTER U WITH CIRCUMFLEX BELOW"⟩,
  ⟨0x1E78, "LATIN ", "CAPITAL LETTER U WITH TILDE AND ACUTE;SMALL LETTER U WITH TILDE AND ACUTE"⟩,
  ⟨0x1E7A, "", "LATIN CAPITAL LETTER U WITH MACRON AND DIAERESIS"⟩,
  ⟨0x1E7B, "LATIN ", "SMALL LETTER U WITH MACRON AND DIAERESIS;CAPITAL LETTER V WITH TILDE"⟩,
  ⟨0x1E7D, "LATIN ", "SMALL LETTER V WITH TILDE;CAPITAL LETTER V WITH DOT BELOW"⟩,
  ⟨0x1E7F, "LATIN ", "SMALL LETTER V WITH DOT BELOW;CAPITAL LETTER W WITH GRAVE"⟩,
  ⟨0x1E81, "LATIN ", "SMALL LETTER W WITH GRAVE;CAPITAL LETTER W WITH ACUTE"⟩,
  ⟨0x1E83, "LATIN ", "SMALL LETTER W WITH ACUTE;CAPITAL LETTER W WITH DIAERESIS"⟩,
  ⟨0x1E85, "LATIN ", "SMALL LETTER W WITH DIAERESIS;CAPITAL LETTER W WITH DOT ABOVE"⟩,
  ⟨0x1E87, "LATIN ", "SMALL LETTER W WITH DOT ABOVE;CAPITAL LETTER W WITH DOT BELOW"⟩,
  ⟨0x1E89, "LATIN ", "SMALL LETTER W WITH DOT BELOW;CAPITAL LETTER X WITH DOT ABOVE"⟩,
  ⟨0x1E8B, "LATIN ", "SMALL LETTER X WITH DOT ABOVE;CAPITAL LETTER X WITH DIAERESIS"⟩,
  ⟨0x1E8D, "LATIN ", "SMALL LETTER X WITH DIAERESIS;CAPITAL LETTER Y WITH DOT ABOVE"⟩,
  ⟨0x1E8F, "LATIN ", "SMALL LETTER Y WITH DOT ABOVE;CAPITAL LETTER Z WITH CIRCUMFLEX"⟩,
  ⟨0x1E91, "LATIN ", "SMALL LETTER Z WITH CIRCUMFLEX;CAPITAL LETTER Z WITH DOT BELOW"⟩,
  ⟨0x1E93, "LATIN ", "SMALL LETTER Z WITH DOT BELOW;CAPITAL LETTER Z WITH LINE BELOW"⟩,
  ⟨0x1E95, "LATIN SMALL LETTER ", "Z WITH LINE BELOW;H WITH LINE BELOW;T WITH DIAERESIS"⟩,
  ⟨0x1E98, "LATIN SMALL LETTER ", "W WITH RING ABOVE;Y WITH RING ABOVE;A WITH RIGHT HALF RING"⟩,
  ⟨0x1E9B, "LATIN SMALL LETTER LONG S WITH ", "DOT ABOVE;DIAGONAL STROKE;HIGH STROKE"⟩,
  ⟨0x1E9E, "LATIN ", "CAPITAL LETTER SHARP S;SMALL LETTER DELTA;CAPITAL LETTER A WITH DOT BELOW"⟩,
  ⟨0x1EA1, "LATIN ", "SMALL LETTER A WITH DOT BELOW;CAPITAL LETTER A WITH HOOK ABOVE"⟩,
  ⟨0x1EA3, "LATIN ", "SMALL LETTER A WITH HOOK ABOVE;CAPITAL LETTER A WITH CIRCUMFLEX AND ACUTE"⟩,
  ⟨0x1EA5, "", "LATIN SMALL LETTER A WITH CIRCUMFLEX AND ACUTE"⟩,
  ⟨0x1EA6, "", "LATIN CAPITAL LETTER A WITH CIRCUMFLEX AND GRAVE"⟩,
  ⟨0x1EA7, "", "LATIN SMALL LETTER A WITH CIRCUMFLEX AND GRAVE"⟩,
  ⟨0x1EA8, "", "LATIN CAPITAL LETTER A WITH CIRCUMFLEX AND HOOK ABOVE"⟩,
  ⟨0x1EA9, "", "LATIN SMALL LETTER A WITH CIRCUMFLEX AND HOOK ABOVE"⟩,
  ⟨0x1EAA, "", "LATIN CAPITAL LETTER A WITH CIRCUMFLEX AND TILDE"⟩,
  ⟨0x1EAB, "", "LATIN SMALL LETTER A WITH CIRCUMFLEX AND TILDE"⟩,
  ⟨0x1EAC, "", "LATIN CAPITAL LETTER A WITH CIRCUMFLEX AND DOT BELOW"⟩,
  ⟨0x1EAD, "", "LATIN SMALL LETTER A WITH CIRCUMFLEX AND DOT BELOW"⟩,
  ⟨0x1EAE, "LATIN ", "CAPITAL LETTER A WITH BREVE AND ACUTE;SMALL LETTER A WITH BREVE AND ACUTE"⟩,
  ⟨0x1EB0, "LATIN ", "CAPITAL LETTER A WITH BREVE AND GRAVE;SMALL LETTER A WITH BREVE AND GRAVE"⟩,
  ⟨0x1EB2, "", "LATIN CAPITAL LETTER A WITH BREVE AND HOOK ABOVE"⟩,
  ⟨0x1EB3, "", "LATIN SMALL LETTER A WITH BREVE AND HOOK ABOVE"⟩,
  ⟨0x1EB4, "LATIN ", "CAPITAL LETTER A WITH BREVE AND TILDE;SMALL LETTER A WITH BREVE AND TILDE"⟩,
  ⟨0x1EB6, "", "LATIN CAPITAL LETTER A WITH BREVE AND DOT BELOW"⟩,
  ⟨0x1EB7, "LATIN ", "SMALL LETTER A WITH BREVE AND DOT BELOW;CAPITAL LETTER E WITH DOT BELOW"⟩,
  ⟨0x1EB9, "LATIN ", "SMALL LETTER E WITH DOT BELOW;CAPITAL LETTER E WITH HOOK ABOVE"⟩,
  ⟨0x1EBB, "LATIN ", "SMALL LETTER E WITH HOOK ABOVE;CAPITAL LETTER E WITH TILDE"⟩,
  ⟨0x1EBD, "LATIN ", "SMALL LETTER E WITH TILDE;CAPITAL LETTER E WITH CIRCUMFLEX AND ACUTE"⟩,
  ⟨0x1EBF, "", "LATIN SMALL LETTER E WITH CIRCUMFLEX AND ACUTE"⟩,
  ⟨0x1EC0, "", "LATIN CAPITAL LETTER E WITH CIRCUMFLEX AND GRAVE"⟩,
  ⟨0x1EC1, "", "LATIN SMALL LETTER E WITH CIRCUMFLEX AND GRAVE"⟩,
  ⟨0x1EC2, "", "LATIN CAPITAL LETTER E WITH CIRCUMFLEX AND HOOK ABOVE"⟩,
  ⟨0x1EC3, "", "LATIN SMALL LETTER E WITH CIRCUMFLEX AND HOOK ABOVE"⟩,
  ⟨0x1EC4, "", "LATIN CAPITAL LETTER E WITH CIRCUMFLEX AND TILDE"⟩,
  ⟨0x1EC5, "", "LATIN SMALL LETTER E WITH CIRCUMFLEX AND TILDE"⟩,
  ⟨0x1EC6, "", "LATIN CAPITAL LETTER E WITH CIRCUMFLEX AND DOT BELOW"⟩,
  ⟨0x1EC7, "", "LATIN SMALL LETTER E WITH CIRCUMFLEX AND DOT BELOW"⟩,
  ⟨0x1EC8, "", "LATIN CAPITAL LETTER I WITH HOOK ABOVE"⟩,
  ⟨0x1EC9, "LATIN ", "SMALL LETTER I WITH HOOK ABOVE;CAPITAL LETTER I WITH DOT BELOW"⟩,
  ⟨0x1ECB, "LATIN ", "SMALL LETTER I WITH DOT BELOW;CAPITAL LETTER O WITH DOT BELOW"⟩,
  ⟨0x1ECD, "LATIN ", "SMALL LETTER O WITH DOT BELOW;CAPITAL LETTER O WITH HOOK ABOVE"⟩,
  ⟨0x1ECF, "LATIN ", "SMALL LETTER O WITH HOOK ABOVE;CAPITAL LETTER O WITH CIRCUMFLEX AND ACUTE"⟩,
  ⟨0x1ED1, "", "LATIN SMALL LETTER O WITH CIRCUMFLEX AND ACUTE"⟩,
  ⟨0x1ED2, "", "LATIN CAPITAL LETTER O WITH CIRCUMFLEX AND GRAVE"⟩,
  ⟨0x1ED3, "", "LATIN SMALL LETTER O WITH CIRCUMFLEX AND GRAVE"⟩,
  ⟨0x1ED4, "", "LATIN CAPITAL LETTER O WITH CIRCUMFLEX AND HOOK ABOVE"⟩,
  ⟨0x1ED5, "", "LATIN SMALL LETTER O WITH CIRCUMFLEX AND HOOK ABOVE"⟩,
  ⟨0x1ED6, "", "LATIN CAPITAL LETTER O WITH CIRCUMFLEX AND TILDE"⟩,
  ⟨0x1ED7, "", "LATIN SMALL LETTER O WITH CIRCUMFLEX AND TILDE"⟩,
  ⟨0x1ED8, "", "LATIN CAPITAL LETTER O WITH CIRCUMFLEX AND DOT BELOW"⟩,
  ⟨0x1ED9, "", "LATIN SMALL LETTER O WITH CIRCUMFLEX AND DOT BELOW"⟩,
  ⟨0x1EDA, "LATIN ", "CAPITAL LETTER O WITH HORN AND ACUTE;SMALL LETTER O WITH HORN AND ACUTE"⟩,
  ⟨0x1EDC, "LATIN ", "CAPITAL LETTER O WITH HORN AND GRAVE;SMALL LETTER O WITH HORN AND GRAVE"⟩,
  ⟨0x1EDE, "", "LATIN CAPITAL LETTER O WITH HORN AND HOOK ABOVE"⟩,
  ⟨0x1EDF, "", "LATIN SMALL LETTER O WITH HORN AND HOOK ABOVE"⟩,
  ⟨0x1EE0, "", "LATIN CAPITAL LETTER O WITH HORN AND TILDE"⟩,
  ⟨0x1EE1, "LATIN ", "SMALL LETTER O WITH HORN AND TILDE;CAPITAL LETTER O WITH HORN AND DOT BELOW"⟩,
  ⟨0x1EE3, "", "LATIN SMALL LETTER O WITH HORN AND DOT BELOW"⟩,
  ⟨0x1EE4, "LATIN ", "CAPITAL LETTER U WITH DOT BELOW;SMALL LETTER U WITH DOT BELOW"⟩,
  ⟨0x1EE6, "LATIN ", "CAPITAL LETTER U WITH HOOK ABOVE;SMALL LETTER U WITH HOOK ABOVE"⟩,
  ⟨0x1EE8, "LATIN ", "CAPITAL LETTER U WITH HORN AND ACUTE;SMALL LETTER U WITH HORN AND ACUTE"⟩,
  ⟨0x1EEA, "LATIN ", "CAPITAL LETTER U WITH HORN AND GRAVE;SMALL LETTER U WITH HORN AND GRAVE"⟩,
  ⟨0x1EEC, "", "LATIN CAPITAL LETTER U WITH HORN AND HOOK ABOVE"⟩,
  ⟨0x1EED, "", "LATIN SMALL LETTER U WITH HORN AND HOOK ABOVE"⟩,
  ⟨0x1EEE, "", "LATIN CAPITAL LETTER U WITH HORN AND TILDE"⟩,
  ⟨0x1EEF, "LATIN ", "SMALL LETTER U WITH HORN AND TILDE;CAPITAL LETTER U WITH HORN AND DOT BELOW"⟩,
  ⟨0x1EF1, "", "LATIN SMALL LETTER U WITH HORN AND DOT BELOW"⟩,
  ⟨0x1EF2, "LATIN ", "CAPITAL LETTER Y WITH GRAVE;SMALL LETTER Y WITH GRAVE"⟩,
  ⟨0x1EF4, "LATIN ", "CAPITAL LETTER Y WITH DOT BELOW;SMALL LETTER Y WITH DOT BELOW"⟩,
  ⟨0x1EF6, "LATIN ", "CAPITAL LETTER Y WITH HOOK ABOVE;SMALL LETTER Y WITH HOOK ABOVE"⟩,
  ⟨0x1EF8, "LATIN ", "CAPITAL LETTER Y WITH TILDE;SMALL LETTER Y WITH TILDE"⟩,
  ⟨0x1EFA, "LATIN ", "CAPITAL LETTER MIDDLE-WELSH LL;SMALL LETTER MIDDLE-WELSH LL"⟩,
  ⟨0x1EFC, "LATIN ", "CAPITAL LETTER MIDDLE-WELSH V;SMALL LETTER MIDDLE-WELSH V"⟩,
  ⟨0x1EFE, "LATIN ", "CAPITAL LETTER Y WITH LOOP;SMALL LETTER Y WITH LOOP"⟩,
  ⟨0x1F00, "GREEK SMALL LETTER ALPHA WITH ", "PSILI;DASIA;PSILI AND VARIA"⟩,
  ⟨0x1F03, "GREEK SMALL LETTER ALPHA WITH ", "DASIA AND VARIA;PSILI AND OXIA;DASIA AND OXIA"⟩,
  ⟨0x1F06, "GREEK SMALL LETTER ALPHA WITH ", "PSILI AND PERISPOMENI;DASIA AND PERISPOMENI"⟩,
  ⟨0x1F08, "GREEK CAPITAL LETTER ALPHA WITH ", "PSILI;DASIA;PSILI AND VARIA"⟩,
  ⟨0x1F0B, "GREEK CAPITAL LETTER ALPHA WITH ", "DASIA AND VARIA;PSILI AND OXIA;DASIA AND OXIA"⟩,
  ⟨0x1F0E, "GREEK CAPITAL LETTER ALPHA WITH ", "PSILI AND PERISPOMENI;DASIA AND PERISPOMENI"⟩,
  ⟨0x1F10, "GREEK SMALL LETTER EPSILON WITH ", "PSILI;DASIA;PSILI AND VARIA"⟩,
  ⟨0x1F13, "GREEK SMALL LETTER EPSILON WITH ", "DASIA AND VARIA;PSILI AND OXIA;DASIA AND OXIA"⟩,
  ⟨0x1F18, "GREEK CAPITAL LETTER EPSILON WITH ", "PSILI;DASIA;PSILI AND VARIA"⟩,
  ⟨0x1F1B, "GREEK CAPITAL LETTER EPSILON WITH ", "DASIA AND VARIA;PSILI AND OXIA;DASIA AND OXIA"⟩,
  ⟨0x1F20, "GREEK SMALL LETTER ETA WITH ", "PSILI;DASIA;PSILI AND VARIA"⟩,
  ⟨0x1F23, "GREEK SMALL LETTER ETA WITH ", "DASIA AND VARIA;PSILI AND OXIA;DASIA AND OXIA"⟩,
  ⟨0x1F26, "GREEK SMALL LETTER ETA WITH ", "PSILI AND PERISPOMENI;DASIA AND PERISPOMENI"⟩,
  ⟨0x1F28, "GREEK CAPITAL LETTER ETA WITH ", "PSILI;DASIA;PSILI AND VARIA"⟩,
  ⟨0x1F2B, "GREEK CAPITAL LETTER ETA WITH ", "DASIA AND VARIA;PSILI AND OXIA;DASIA AND OXIA"⟩,
  ⟨0x1F2E, "GREEK CAPITAL LETTER ETA WITH ", "PSILI AND PERISPOMENI;DASIA AND PERISPOMENI"⟩,
  ⟨0x1F30, "GREEK SMALL LETTER IOTA WITH ", "PSILI;DASIA;PSILI AND VARIA"⟩,
  ⟨0x1F33, "GREEK SMALL LETTER IOTA WITH ", "DASIA AND VARIA;PSILI AND OXIA;DASIA AND OXIA"⟩,
  ⟨0x1F36, "GREEK SMALL LETTER IOTA WITH ", "PSILI AND PERISPOMENI;DASIA AND PERISPOMENI"⟩,
  ⟨0x1F38, "GREEK CAPITAL LETTER IOTA WITH ", "PSILI;DASIA;PSILI AND VARIA"⟩,
  ⟨0x1F3B, "GREEK CAPITAL LETTER IOTA WITH ", "DASIA AND VARIA;PSILI AND OXIA;DASIA AND OXIA"⟩,
  ⟨0x1F3E, "GREEK CAPITAL LETTER IOTA WITH ", "PSILI AND PERISPOMENI;DASIA AND PERISPOMENI"⟩,
  ⟨0x1F40, "GREEK SMALL LETTER OMICRON WITH ", "PSILI;DASIA;PSILI AND VARIA"⟩,
  ⟨0x1F43, "GREEK SMALL LETTER OMICRON WITH ", "DASIA AND VARIA;PSILI AND OXIA;DASIA AND OXIA"⟩,
  ⟨0x1F48, "GREEK CAPITAL LETTER OMICRON WITH ", "PSILI;DASIA;PSILI AND VARIA"⟩,
  ⟨0x1F4B, "GREEK CAPITAL LETTER OMICRON WITH ", "DASIA AND VARIA;PSILI AND OXIA;DASIA AND OXIA"⟩,
  ⟨0x1F50, "GREEK SMALL LETTER UPSILON WITH ", "PSILI;DASIA;PSILI AND VARIA"⟩,
  ⟨0x1F53, "GREEK SMALL LETTER UPSILON WITH ", "DASIA AND VARIA;PSILI AND OXIA;DASIA AND OXIA"⟩,
  ⟨0x1F56, "GREEK SMALL LETTER UPSILON WITH ", "PSILI AND PERISPOMENI;DASIA AND PERISPOMENI"⟩,
  ⟨0x1F59, "", "GREEK CAPITAL LETTER UPSILON WITH DASIA"⟩,
  ⟨0x1F5B, "", "GREEK CAPITAL LETTER UPSILON WITH DASIA AND VARIA"⟩,
  ⟨0x1F5D, "", "GREEK CAPITAL LETTER UPSILON WITH DASIA AND OXIA"⟩,
  ⟨0x1F5F, "", "GREEK CAPITAL LETTER UPSILON WITH DASIA AND PERISPOMENI"⟩,
  ⟨0x1F60, "GREEK SMALL LETTER OMEGA WITH ", "PSILI;DASIA;PSILI AND VARIA"⟩,
  ⟨0x1F63, "GREEK SMALL LETTER OMEGA WITH ", "DASIA AND VARIA;PSILI AND OXIA;DASIA AND OXIA"⟩,
  ⟨0x1F66, "GREEK SMALL LETTER OMEGA WITH ", "PSILI AND PERISPOMENI;DASIA AND PERISPOMENI"⟩,
  ⟨0x1F68, "GREEK CAPITAL LETTER OMEGA WITH ", "PSILI;DASIA;PSILI AND VARIA"⟩,
  ⟨0x1F6B, "GREEK CAPITAL LETTER OMEGA WITH ", "DASIA AND VARIA;PSILI AND OXIA;DASIA AND OXIA"⟩,
  ⟨0x1F6E, "GREEK CAPITAL LETTER OMEGA WITH ", "PSILI AND PERISPOMENI;DASIA AND PERISPOMENI"⟩,
  ⟨0x1F70, "", "GREEK SMALL LETTER ALPHA WITH VARIA"⟩,
  ⟨0x1F71, "GREEK SMALL LETTER ", "ALPHA WITH OXIA;EPSILON WITH VARIA;EPSILON WITH OXIA"⟩,
  ⟨0x1F74, "GREEK SMALL LETTER ", "ETA WITH VARIA;ETA WITH OXIA;IOTA WITH VARIA;IOTA WITH OXIA"⟩,
  ⟨0x1F78, "GREEK SMALL LETTER ", "OMICRON WITH VARIA;OMICRON WITH OXIA;UPSILON WITH VARIA"⟩,
  ⟨0x1F7B, "GREEK SMALL LETTER ", "UPSILON WITH OXIA;OMEGA WITH VARIA;OMEGA WITH OXIA"⟩,
  ⟨0x1F80, "GREEK SMALL LETTER ALPHA WITH ", "PSILI AND YPOGEGRAMMENI;DASIA AND YPOGEGRAMMENI"⟩,
  ⟨0x1F82, "", "GREEK SMALL LETTER ALPHA WITH PSILI AND VARIA AND YPOGEGRAMMENI"⟩,
  ⟨0x1F83, "", "GREEK SMALL LETTER ALPHA WITH DASIA AND VARIA AND YPOGEGRAMMENI"⟩,
  ⟨0x1F84, "", "GREEK SMALL LETTER ALPHA WITH PSILI AND OXIA AND YPOGEGRAMMENI"⟩,
  ⟨0x1F85, "", "GREEK SMALL LETTER ALPHA WITH DASIA AND OXIA AND YPOGEGRAMMENI"⟩,
  ⟨0x1F86, "", "GREEK SMALL LETTER ALPHA WITH PSILI AND PERISPOMENI AND YPOGEGRAMMENI"⟩,
  ⟨0x1F87, "", "GREEK SMALL LETTER ALPHA WITH DASIA AND PERISPOMENI AND YPOGEGRAMMENI"⟩,
  ⟨0x1F88, "GREEK CAPITAL LETTER ALPHA WITH ", "PSILI AND PROSGEGRAMMENI;DASIA AND PROSGEGRAMMENI"⟩,
  ⟨0x1F8A, "", "GREEK CAPITAL LETTER ALPHA WITH PSILI AND VARIA AND PROSGEGRAMMENI"⟩,
  ⟨0x1F8B, "", "GREEK CAPITAL LETTER ALPHA WITH DASIA AND VARIA AND PROSGEGRAMMENI"⟩,
  ⟨0x1F8C, "", "GREEK CAPITAL LETTER ALPHA WITH PSILI AND OXIA AND PROSGEGRAMMENI"⟩,
  ⟨0x1F8D, "", "GREEK CAPITAL LETTER ALPHA WITH DASIA AND OXIA AND PROSGEGRAMMENI"⟩,
  ⟨0x1F8E, "", "GREEK CAPITAL LETTER ALPHA WITH PSILI AND PERISPOMENI AND PROSGEGRAMMENI"⟩,
  ⟨0x1F8F, "", "GREEK CAPITAL LETTER ALPHA WITH DASIA AND PERISPOMENI AND PROSGEGRAMMENI"⟩,
  ⟨0x1F90, "GREEK SMALL LETTER ETA WITH ", "PSILI AND YPOGEGRAMMENI;DASIA AND YPOGEGRAMMENI"⟩,
  ⟨0x1F92, "", "GREEK SMALL LETTER ETA WITH PSILI AND VARIA AND YPOGEGRAMMENI"⟩,
  ⟨0x1F93, "", "GREEK SMALL LETTER ETA WITH DASIA AND VARIA AND YPOGEGRAMMENI"⟩,
  ⟨0x1F94, "", "GREEK SMALL LETTER ETA WITH PSILI AND OXIA AND YPOGEGRAMMENI"⟩,
  ⟨0x1F95, "", "GREEK SMALL LETTER ETA WITH DASIA AND OXIA AND YPOGEGRAMMENI"⟩,
  ⟨0x1F96, "", "GREEK SMALL LETTER ETA WITH PSILI AND PERISPOMENI AND YPOGEGRAMMENI"⟩,
  ⟨0x1F97, "", "GREEK SMALL LETTER ETA WITH DASIA AND PERISPOMENI AND YPOGEGRAMMENI"⟩,
  ⟨0x1F98, "GREEK CAPITAL LETTER ETA WITH ", "PSILI AND PROSGEGRAMMENI;DASIA AND PROSGEGRAMMENI"⟩,
  ⟨0x1F9A, "", "GREEK CAPITAL LETTER ETA WITH PSILI AND VARIA AND PROSGEGRAMMENI"⟩,
  ⟨0x1F9B, "", "GREEK CAPITAL LETTER ETA WITH DASIA AND VARIA AND PROSGEGRAMMENI"⟩,
  ⟨0x1F9C, "", "GREEK CAPITAL LETTER ETA WITH PSILI AND OXIA AND PROSGEGRAMMENI"⟩,
  ⟨0x1F9D, "", "GREEK CAPITAL LETTER ETA WITH DASIA AND OXIA AND PROSGEGRAMMENI"⟩,
  ⟨0x1F9E, "", "GREEK CAPITAL LETTER ETA WITH PSILI AND PERISPOMENI AND PROSGEGRAMMENI"⟩,
  ⟨0x1F9F, "", "GREEK CAPITAL LETTER ETA WITH DASIA AND PERISPOMENI AND PROSGEGRAMMENI"⟩,
  ⟨0x1FA0, "GREEK SMALL LETTER OMEGA WITH ", "PSILI AND YPOGEGRAMMENI;DASIA AND YPOGEGRAMMENI"⟩,
  ⟨0x1FA2, "", "GREEK SMALL LETTER OMEGA WITH PSILI AND VARIA AND YPOGEGRAMMENI"⟩,
  ⟨0x1FA3, "", "GREEK SMALL LETTER OMEGA WITH DASIA AND VARIA AND YPOGEGRAMMENI"⟩,
  ⟨0x1FA4, "", "GREEK SMALL LETTER OMEGA WITH PSILI AND OXIA AND YPOGEGRAMMENI"⟩,
  ⟨0x1FA5, "", "GREEK SMALL LETTER OMEGA WITH DASIA AND OXIA AND YPOGEGRAMMENI"⟩,
  ⟨0x1FA6, "", "GREEK SMALL LETTER OMEGA WITH PSILI AND PERISPOMENI AND YPOGEGRAMMENI"⟩,
  ⟨0x1FA7, "", "GREEK SMALL LETTER OMEGA WITH DASIA AND PERISPOMENI AND YPOGEGRAMMENI"⟩,
  ⟨0x1FA8, "GREEK CAPITAL LETTER OMEGA WITH ", "PSILI AND PROSGEGRAMMENI;DASIA AND PROSGEGRAMMENI"⟩,
  ⟨0x1FAA, "", "GREEK CAPITAL LETTER OMEGA WITH PSILI AND VARIA AND PROSGEGRAMMENI"⟩,
  ⟨0x1FAB, "", "GREEK CAPITAL LETTER OMEGA WITH DASIA AND VARIA AND PROSGEGRAMMENI"⟩,
  ⟨0x1FAC, "", "GREEK CAPITAL LETTER OMEGA WITH PSILI AND OXIA AND PROSGEGRAMMENI"⟩,
  ⟨0x1FAD, "", "GREEK CAPITAL LETTER OMEGA WITH DASIA AND OXIA AND PROSGEGRAMMENI"⟩,
  ⟨0x1FAE, "", "GREEK CAPITAL LETTER OMEGA WITH PSILI AND PERISPOMENI AND PROSGEGRAMMENI"⟩,
  ⟨0x1FAF, "", "GREEK CAPITAL LETTER OMEGA WITH DASIA AND PERISPOMENI AND PROSGEGRAMMENI"⟩,
  ⟨0x1FB0, "GREEK SMALL LETTER ALPHA WITH ", "VRACHY;MACRON;VARIA AND YPOGEGRAMMENI"⟩,
  ⟨0x1FB3, "GREEK SMALL LETTER ALPHA WITH ", "YPOGEGRAMMENI;OXIA AND YPOGEGRAMMENI"⟩,
  ⟨0x1FB6, "GREEK SMALL LETTER ALPHA WITH ", "PERISPOMENI;PERISPOMENI AND YPOGEGRAMMENI"⟩,
  ⟨0x1FB8, "GREEK CAPITAL LETTER ALPHA WITH ", "VRACHY;MACRON;VARIA;OXIA;PROSGEGRAMMENI"⟩,
  ⟨0x1FBD, "GREEK ", "KORONIS;PROSGEGRAMMENI;PSILI;PERISPOMENI"⟩,
  ⟨0x1FC1, "GREEK ", "DIALYTIKA AND PERISPOMENI;SMALL LETTER ETA WITH VARIA AND YPOGEGRAMMENI"⟩,
  ⟨0x1FC3, "GREEK SMALL LETTER ETA WITH ", "YPOGEGRAMMENI;OXIA AND YPOGEGRAMMENI"⟩,
  ⟨0x1FC6, "GREEK SMALL LETTER ETA WITH ", "PERISPOMENI;PERISPOMENI AND YPOGEGRAMMENI"⟩,
  ⟨0x1FC8, "GREEK CAPITAL LETTER EPSILON WITH ", "VARIA;OXIA"⟩,
  ⟨0x1FCA, "GREEK CAPITAL LETTER ETA WITH ", "VARIA;OXIA;PROSGEGRAMMENI"⟩,
  ⟨0x1FCD, "GREEK PSILI AND ", "VARIA;OXIA;PERISPOMENI"⟩,
  ⟨0x1FD0, "GREEK SMALL LETTER IOTA WITH ", "VRACHY;MACRON;DIALYTIKA AND VARIA;DIALYTIKA AND OXIA"⟩,
  ⟨0x1FD6, "GREEK SMALL LETTER IOTA WITH ", "PERISPOMENI;DIALYTIKA AND PERISPOMENI"⟩,
  ⟨0x1FD8, "GREEK CAPITAL LETTER IOTA WITH ", "VRACHY;MACRON;VARIA;OXIA"⟩,
  ⟨0x1FDD, "GREEK DASIA AND ", "VARIA;OXIA;PERISPOMENI"⟩,
  ⟨0x1FE0, "GREEK SMALL LETTER UPSILON WITH ", "VRACHY;MACRON;DIALYTIKA AND VARIA"⟩,
  ⟨0x1FE3, "GREEK SMALL LETTER ", "UPSILON WITH DIALYTIKA AND OXIA;RHO WITH PSILI;RHO WITH DASIA"⟩,
  ⟨0x1FE6, "GREEK SMALL LETTER UPSILON WITH ", "PERISPOMENI;DIALYTIKA AND PERISPOMENI"⟩,
  ⟨0x1FE8, "GREEK CAPITAL LETTER UPSILON WITH ", "VRACHY;MACRON;VARIA;OXIA"⟩,
  ⟨0x1FEC, "GREEK ", "CAPITAL LETTER RHO WITH DASIA;DIALYTIKA AND VARIA;DIALYTIKA AND OXIA;VARIA"⟩,
  ⟨0x1FF2, "", "GREEK SMALL LETTER OMEGA WITH VARIA AND YPOGEGRAMMENI"⟩,
  ⟨0x1FF3, "GREEK SMALL LETTER OMEGA WITH ", "YPOGEGRAMMENI;OXIA AND YPOGEGRAMMENI"⟩,
  ⟨0x1FF6, "GREEK SMALL LETTER OMEGA WITH ", "PERISPOMENI;PERISPOMENI AND YPOGEGRAMMENI"⟩,
  ⟨0x1FF8, "", "GREEK CAPITAL LETTER OMICRON WITH VARIA"⟩,
  ⟨0x1FF9, "GREEK CAPITAL LETTER ", "OMICRON WITH OXIA;OMEGA WITH VARIA;OMEGA WITH OXIA"⟩,
  ⟨0x1FFC, "GREEK ", "CAPITAL LETTER OMEGA WITH PROSGEGRAMMENI;OXIA;DASIA"⟩]

end TablePipeline.Text
