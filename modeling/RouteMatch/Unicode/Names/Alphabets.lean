import RouteMatch.Unicode.Names.Run

/-!
# Names of characters from U+0000 to U+10FF

The names of version 14 of the Unicode character database, run by run.

## Main definitions

* `NameRun.alphabets` — the table.
-/

namespace RouteMatch.Unicode

/-- The names of the characters from U+0000 to U+10FF. -/
def NameRun.alphabets : List NameRun := [
    ⟨0x20, ["0SPACE,0EXCLAMATION MARK,0QUOTATION MARK,0NUMBER SIGN,0DOLLAR SIGN,0PERCENT SIGN",
      "0AMPERSAND,0APOSTROPHE,0LEFT PARENTHESIS,0RIGHT PARENTHESIS,0ASTERISK,0PLUS SIGN,0COMMA",
      "0HYPHEN-MINUS,0FULL STOP,0SOLIDUS,0DIGIT ZERO,1ONE,1TWO,1THREE,1FOUR,1FIVE,1SIX,1SEVEN",
      "1EIGHT,1NINE,0COLON,0SEMICOLON,0LESS-THAN SIGN,0EQUALS SIGN,0GREATER-THAN SIGN",
      "0QUESTION MARK,0COMMERCIAL AT,0LATIN CAPITAL LETTER A,3B,3C,3D,3E,3F,3G,3H,3I,3J,3K,3L,3M",
      "3N,3O,3P,3Q,3R,3S,3T,3U,3V,3W,3X,3Y,3Z,0LEFT SQUARE BRACKET,0REVERSE SOLIDUS",
      "0RIGHT SQUARE BRACKET,0CIRCUMFLEX ACCENT,0LOW LINE,0GRAVE ACCENT,0LATIN SMALL LETTER A,3B",
      "3C,3D,3E,3F,3G,3H,3I,3J,3K,3L,3M,3N,3O,3P,3Q,3R,3S,3T,3U,3V,3W,3X,3Y,3Z,0LEFT CURLY BRACKET",
      "0VERTICAL LINE,0RIGHT CURLY BRACKET,0TILDE"]⟩,
    ⟨0xA0, ["0NO-BREAK SPACE,0INVERTED EXCLAMATION MARK,0CENT SIGN,0POUND SIGN,0CURRENCY SIGN",
      "0YEN SIGN,0BROKEN BAR,0SECTION SIGN,0DIAERESIS,0COPYRIGHT SIGN,0FEMININE ORDINAL INDICATOR",
      "0LEFT-POINTING DOUBLE ANGLE QUOTATION MARK,0NOT SIGN,0SOFT HYPHEN,0REGISTERED SIGN,0MACRON",
      "0DEGREE SIGN,0PLUS-MINUS SIGN,0SUPERSCRIPT TWO,1THREE,0ACUTE ACCENT,0MICRO SIGN",
      "0PILCROW SIGN,0MIDDLE DOT,0CEDILLA,0SUPERSCRIPT ONE,0MASCULINE ORDINAL INDICATOR",
      "0RIGHT-POINTING DOUBLE ANGLE QUOTATION MARK,0VULGAR FRACTION ONE QUARTER,3HALF",
      "2THREE QUARTERS,0INVERTED QUESTION MARK,0LATIN CAPITAL LETTER A WITH GRAVE,5ACUTE",
      "5CIRCUMFLEX,5TILDE,5DIAERESIS,5RING ABOVE,3AE,3C WITH CEDILLA,3E WITH GRAVE,5ACUTE",
      "5CIRCUMFLEX,5DIAERESIS,3I WITH GRAVE,5ACUTE,5CIRCUMFLEX,5DIAERESIS,3ETH,3N WITH TILDE",
      "3O WITH GRAVE,5ACUTE,5CIRCUMFLEX,5TILDE,5DIAERESIS,0MULTIPLICATION SIGN",
      "0LATIN CAPITAL LETTER O WITH STROKE,3U WITH GRAVE,5ACUTE,5CIRCUMFLEX,5DIAERESIS",
      "3Y WITH ACUTE,3THORN,1SMALL LETTER SHARP S,3A WITH GRAVE,5ACUTE,5CIRCUMFLEX,5TILDE",
      "5DIAERESIS,5RING ABOVE,3AE,3C WITH CEDILLA,3E WITH GRAVE,5ACUTE,5CIRCUMFLEX,5DIAERESIS",
      "3I WITH GRAVE,5ACUTE,5CIRCUMFLEX,5DIAERESIS,3ETH,3N WITH TILDE,3O WITH GRAVE,5ACUTE",
      "5CIRCUMFLEX,5TILDE,5DIAERESIS,0DIVISION SIGN,0LATIN SMALL LETTER O WITH STROKE",
      "3U WITH GRAVE,5ACUTE,5CIRCUMFLEX,5DIAERESIS,3Y WITH ACUTE,3THORN,3Y WITH DIAERESIS",
      "1CAPITAL LETTER A WITH MACRON,1SMALL LETTER A WITH MACRON,1CAPITAL LETTER A WITH BREVE",
      "1SMALL LETTER A WITH BREVE,1CAPITAL LETTER A WITH OGONEK,1SMALL LETTER A WITH OGONEK",
      "1CAPITAL LETTER C WITH ACUTE,1SMALL LETTER C WITH ACUTE,1CAPITAL LETTER C WITH CIRCUMFLEX",
      "1SMALL LETTER C WITH CIRCUMFLEX,1CAPITAL LETTER C WITH DOT ABOVE",
      "1SMALL LETTER C WITH DOT ABOVE,1CAPITAL LETTER C WITH CARON,1SMALL LETTER C WITH CARON",
      "1CAPITAL LETTER D WITH CARON,1SMALL LETTER D WITH CARON,1CAPITAL LETTER D WITH STROKE",
      "1SMALL LETTER D WITH STROKE,1CAPITAL LETTER E WITH MACRON,1SMALL LETTER E WITH MACRON",
      "1CAPITAL LETTER E WITH BREVE,1SMALL LETTER E WITH BREVE,1CAPITAL LETTER E WITH DOT ABOVE",
      "1SMALL LETTER E WITH DOT ABOVE,1CAPITAL LETTER E WITH OGONEK,1SMALL LETTER E WITH OGONEK",
      "1CAPITAL LETTER E WITH CARON,1SMALL LETTER E WITH CARON,1CAPITAL LETTER G WITH CIRCUMFLEX",
      "1SMALL LETTER G WITH CIRCUMFLEX,1CAPITAL LETTER G WITH BREVE,1SMALL LETTER G WITH BREVE",
      "1CAPITAL LETTER G WITH DOT ABOVE,1SMALL LETTER G WITH DOT ABOVE",
      "1CAPITAL LETTER G WITH CEDILLA,1SMALL LETTER G WITH CEDILLA",
      "1CAPITAL LETTER H WITH CIRCUMFLEX,1SMALL LETTER H WITH CIRCUMFLEX",
      "1CAPITAL LETTER H WITH STROKE,1SMALL LETTER H WITH STROKE,1CAPITAL LETTER I WITH TILDE",
      "1SMALL LETTER I WITH TILDE,1CAPITAL LETTER I WITH MACRON,1SMALL LETTER I WITH MACRON",
      "1CAPITAL LETTER I WITH BREVE,1SMALL LETTER I WITH BREVE,1CAPITAL LETTER I WITH OGONEK",
      "1SMALL LETTER I WITH OGONEK,1CAPITAL LETTER I WITH DOT ABOVE,1SMALL LETTER DOTLESS I",
      "1CAPITAL LIGATURE IJ,1SMALL LIGATURE IJ,1CAPITAL LETTER J WITH CIRCUMFLEX",
      "1SMALL LETTER J WITH CIRCUMFLEX,1CAPITAL LETTER K WITH CEDILLA,1SMALL LETTER K WITH CEDILLA",
      "3KRA,1CAPITAL LETTER L WITH ACUTE,1SMALL LETTER L WITH ACUTE,1CAPITAL LETTER L WITH CEDILLA",
      "1SMALL LETTER L WITH CEDILLA,1CAPITAL LETTER L WITH CARON,1SMALL LETTER L WITH CARON",
      "1CAPITAL LETTER L WITH MIDDLE DOT,1SMALL LETTER L WITH MIDDLE DOT",
      "1CAPITAL LETTER L WITH STROKE,1SMALL LETTER L WITH STROKE,1CAPITAL LETTER N WITH ACUTE",
      "1SMALL LETTER N WITH ACUTE,1CAPITAL LETTER N WITH CEDILLA,1SMALL LETTER N WITH CEDILLA",
      "1CAPITAL LETTER N WITH CARON,1SMALL LETTER N WITH CARON,4PRECEDED BY APOSTROPHE",
      "1CAPITAL LETTER ENG,1SMALL LETTER ENG,1CAPITAL LETTER O WITH MACRON",
      "1SMALL LETTER O WITH MACRON,1CAPITAL LETTER O WITH BREVE,1SMALL LETTER O WITH BREVE",
      "1CAPITAL LETTER O WITH DOUBLE ACUTE,1SMALL LETTER O WITH DOUBLE ACUTE,1CAPITAL LIGATURE OE",
      "1SMALL LIGATURE OE,1CAPITAL LETTER R WITH ACUTE,1SMALL LETTER R WITH ACUTE",
      "1CAPITAL LETTER R WITH CEDILLA,1SMALL LETTER R WITH CEDILLA,1CAPITAL LETTER R WITH CARON",
      "1SMALL LETTER R WITH CARON,1CAPITAL LETTER S WITH ACUTE,1SMALL LETTER S WITH ACUTE",
      "1CAPITAL LETTER S WITH CIRCUMFLEX,1SMALL LETTER S WITH CIRCUMFLEX",
      "1CAPITAL LETTER S WITH CEDILLA,1SMALL LETTER S WITH CEDILLA,1CAPITAL LETTER S WITH CARON",
      "1SMALL LETTER S WITH CARON,1CAPITAL LETTER T WITH CEDILLA,1SMALL LETTER T WITH CEDILLA",
      "1CAPITAL LETTER T WITH CARON,1SMALL LETTER T WITH CARON,1CAPITAL LETTER T WITH STROKE",
      "1SMALL LETTER T WITH STROKE,1CAPITAL LETTER U WITH TILDE,1SMALL LETTER U WITH TILDE",
      "1CAPITAL LETTER U WITH MACRON,1SMALL LETTER U WITH MACRON,1CAPITAL LETTER U WITH BREVE",
      "1SMALL LETTER U WITH BREVE,1CAPITAL LETTER U WITH RING ABOVE",
      "1SMALL LETTER U WITH RING ABOVE,1CAPITAL LETTER U WITH DOUBLE ACUTE",
      "1SMALL LETTER U WITH DOUBLE ACUTE,1CAPITAL LETTER U WITH OGONEK,1SMALL LETTER U WITH OGONEK",
      "1CAPITAL LETTER W WITH CIRCUMFLEX,1SMALL LETTER W WITH CIRCUMFLEX",
      "1CAPITAL LETTER Y WITH CIRCUMFLEX,1SMALL LETTER Y WITH CIRCUMFLEX",
      "1CAPITAL LETTER Y WITH DIAERESIS,3Z WITH ACUTE,1SMALL LETTER Z WITH ACUTE",
      "1CAPITAL LETTER Z WITH DOT ABOVE,1SMALL LETTER Z WITH DOT ABOVE",
      "1CAPITAL LETTER Z WITH CARON,1SMALL LETTER Z WITH CARON,3LONG S,3B WITH STROKE",
      "1CAPITAL LETTER B WITH HOOK,5TOPBAR,1SMALL LETTER B WITH TOPBAR,1CAPITAL LETTER TONE SIX",
      "1SMALL LETTER TONE SIX,1CAPITAL LETTER OPEN O,3C WITH HOOK,1SMALL LETTER C WITH HOOK",
      "1CAPITAL LETTER AFRICAN D,3D WITH HOOK,5TOPBAR,1SMALL LETTER D WITH TOPBAR,3TURNED DELTA",
      "1CAPITAL LETTER REVERSED E,3SCHWA,3OPEN E,3F WITH HOOK,1SMALL LETTER F WITH HOOK",
      "1CAPITAL LETTER G WITH HOOK,3GAMMA,1SMALL LETTER HV,1CAPITAL LETTER IOTA,3I WITH STROKE",
      "3K WITH HOOK,1SMALL LETTER K WITH HOOK,3L WITH BAR,3LAMBDA WITH STROKE",
      "1CAPITAL LETTER TURNED M,3N WITH LEFT HOOK,1SMALL LETTER N WITH LONG RIGHT LEG",
      "1CAPITAL LETTER O WITH MIDDLE TILDE,5HORN,1SMALL LETTER O WITH HORN,1CAPITAL LETTER OI",
      "1SMALL LETTER OI,1CAPITAL LETTER P WITH HOOK,1SMALL LETTER P WITH HOOK,1LETTER YR",
      "1CAPITAL LETTER TONE TWO,1SMALL LETTER TONE TWO,1CAPITAL LETTER ESH",
      "1LETTER REVERSED ESH LOOP,1SMALL LETTER T WITH PALATAL HOOK,1CAPITAL LETTER T WITH HOOK",
      "1SMALL LETTER T WITH HOOK,1CAPITAL LETTER T WITH RETROFLEX HOOK,3U WITH HORN",
      "1SMALL LETTER U WITH HORN,1CAPITAL LETTER UPSILON,3V WITH HOOK,3Y WITH HOOK",
      "1SMALL LETTER Y WITH HOOK,1CAPITAL LETTER Z WITH STROKE,1SMALL LETTER Z WITH STROKE",
      "1CAPITAL LETTER EZH,4REVERSED,1SMALL LETTER EZH REVERSED,4WITH TAIL,1LETTER TWO WITH STROKE",
      "1CAPITAL LETTER TONE FIVE,1SMALL LETTER TONE FIVE,1LETTER INVERTED GLOTTAL STOP WITH STROKE",
      "2WYNN,2DENTAL CLICK,2LATERAL CLICK,2ALVEOLAR CLICK,2RETROFLEX CLICK",
      "1CAPITAL LETTER DZ WITH CARON,3D WITH SMALL LETTER Z WITH CARON,1SMALL LETTER DZ WITH CARON",
      "1CAPITAL LETTER LJ,3L WITH SMALL LETTER J,1SMALL LETTER LJ,1CAPITAL LETTER NJ",
      "3N WITH SMALL LETTER J,1SMALL LETTER NJ,1CAPITAL LETTER A WITH CARON",
      "1SMALL LETTER A WITH CARON,1CAPITAL LETTER I WITH CARON,1SMALL LETTER I WITH CARON",
      "1CAPITAL LETTER O WITH CARON,1SMALL LETTER O WITH CARON,1CAPITAL LETTER U WITH CARON",
      "1SMALL LETTER U WITH CARON,1CAPITAL LETTER U WITH DIAERESIS AND MACRON",
      "1SMALL LETTER U WITH DIAERESIS AND MACRON,1CAPITAL LETTER U WITH DIAERESIS AND ACUTE",
      "1SMALL LETTER U WITH DIAERESIS AND ACUTE,1CAPITAL LETTER U WITH DIAERESIS AND CARON",
      "1SMALL LETTER U WITH DIAERESIS AND CARON,1CAPITAL LETTER U WITH DIAERESIS AND GRAVE",
      "1SMALL LETTER U WITH DIAERESIS AND GRAVE,3TURNED E",
      "1CAPITAL LETTER A WITH DIAERESIS AND MACRON,1SMALL LETTER A WITH DIAERESIS AND MACRON",
      "1CAPITAL LETTER A WITH DOT ABOVE AND MACRON,1SMALL LETTER A WITH DOT ABOVE AND MACRON",
      "1CAPITAL LETTER AE WITH MACRON,1SMALL LETTER AE WITH MACRON,1CAPITAL LETTER G WITH STROKE",
      "1SMALL LETTER G WITH STROKE,1CAPITAL LETTER G WITH CARON,1SMALL LETTER G WITH CARON",
      "1CAPITAL LETTER K WITH CARON,1SMALL LETTER K WITH CARON,1CAPITAL LETTER O WITH OGONEK",
      "1SMALL LETTER O WITH OGONEK,1CAPITAL LETTER O WITH OGONEK AND MACRON",
      "1SMALL LETTER O WITH OGONEK AND MACRON,1CAPITAL LETTER EZH WITH CARON",
      "1SMALL LETTER EZH WITH CARON,3J WITH CARON,1CAPITAL LETTER DZ,3D WITH SMALL LETTER Z",
      "1SMALL LETTER DZ,1CAPITAL LETTER G WITH ACUTE,1SMALL LETTER G WITH ACUTE",
      "1CAPITAL LETTER HWAIR,3WYNN,3N WITH GRAVE,1SMALL LETTER N WITH GRAVE",
      "1CAPITAL LETTER A WITH RING ABOVE AND ACUTE,1SMALL LETTER A WITH RING ABOVE AND ACUTE",
      "1CAPITAL LETTER AE WITH ACUTE,1SMALL LETTER AE WITH ACUTE",
      "1CAPITAL LETTER O WITH STROKE AND ACUTE,1SMALL LETTER O WITH STROKE AND ACUTE",
      "1CAPITAL LETTER A WITH DOUBLE GRAVE,1SMALL LETTER A WITH DOUBLE GRAVE",
      "1CAPITAL LETTER A WITH INVERTED BREVE,1SMALL LETTER A WITH INVERTED BREVE",
      "1CAPITAL LETTER E WITH DOUBLE GRAVE,1SMALL LETTER E WITH DOUBLE GRAVE",
      "1CAPITAL LETTER E WITH INVERTED BREVE,1SMALL LETTER E WITH INVERTED BREVE",
      "1CAPITAL LETTER I WITH DOUBLE GRAVE,1SMALL LETTER I WITH DOUBLE GRAVE",
      "1CAPITAL LETTER I WITH INVERTED BREVE,1SMALL LETTER I WITH INVERTED BREVE",
      "1CAPITAL LETTER O WITH DOUBLE GRAVE,1SMALL LETTER O WITH DOUBLE GRAVE",
      "1CAPITAL LETTER O WITH INVERTED BREVE,1SMALL LETTER O WITH INVERTED BREVE",
      "1CAPITAL LETTER R WITH DOUBLE GRAVE,1SMALL LETTER R WITH DOUBLE GRAVE",
      "1CAPITAL LETTER R WITH INVERTED BREVE,1SMALL LETTER R WITH INVERTED BREVE",
      "1CAPITAL LETTER U WITH DOUBLE GRAVE,1SMALL LETTER U WITH DOUBLE GRAVE",
      "1CAPITAL LETTER U WITH INVERTED BREVE,1SMALL LETTER U WITH INVERTED BREVE",
      "1CAPITAL LETTER S WITH COMMA BELOW,1SMALL LETTER S WITH COMMA BELOW",
      "1CAPITAL LETTER T WITH COMMA BELOW,1SMALL LETTER T WITH COMMA BELOW,1CAPITAL LETTER YOGH",
      "1SMALL LETTER YOGH,1CAPITAL LETTER H WITH CARON,1SMALL LETTER H WITH CARON",
      "1CAPITAL LETTER N WITH LONG RIGHT LEG,1SMALL LETTER D WITH CURL,1CAPITAL LETTER OU",
      "1SMALL LETTER OU,1CAPITAL LETTER Z WITH HOOK,1SMALL LETTER Z WITH HOOK",
      "1CAPITAL LETTER A WITH DOT ABOVE,1SMALL LETTER A WITH DOT ABOVE",
      "1CAPITAL LETTER E WITH CEDILLA,1SMALL LETTER E WITH CEDILLA",
      "1CAPITAL LETTER O WITH DIAERESIS AND MACRON,1SMALL LETTER O WITH DIAERESIS AND MACRON",
      "1CAPITAL LETTER O WITH TILDE AND MACRON,1SMALL LETTER O WITH TILDE AND MACRON",
      "1CAPITAL LETTER O WITH DOT ABOVE,1SMALL LETTER O WITH DOT ABOVE",
      "1CAPITAL LETTER O WITH DOT ABOVE AND MACRON,1SMALL LETTER O WITH DOT ABOVE AND MACRON",
      "1CAPITAL LETTER Y WITH MACRON,1SMALL LETTER Y WITH MACRON,3L WITH CURL,3N WITH CURL",
      "3T WITH CURL,3DOTLESS J,3DB DIGRAPH,3QP DIGRAPH,1CAPITAL LETTER A WITH STROKE",
      "3C WITH STROKE,1SMALL LETTER C WITH STROKE,1CAPITAL LETTER L WITH BAR",
      "3T WITH DIAGONAL STROKE,1SMALL LETTER S WITH SWASH TAIL,3Z WITH SWASH TAIL",
      "1CAPITAL LETTER GLOTTAL STOP,1SMALL LETTER GLOTTAL STOP,1CAPITAL LETTER B WITH STROKE",
      "3U BAR,3TURNED V,3E WITH STROKE,1SMALL LETTER E WITH STROKE,1CAPITAL LETTER J WITH STROKE",
      "1SMALL LETTER J WITH STROKE,1CAPITAL LETTER SMALL Q WITH HOOK TAIL",
      "1SMALL LETTER Q WITH HOOK TAIL,1CAPITAL LETTER R WITH STROKE,1SMALL LETTER R WITH STROKE",
      "1CAPITAL LETTER Y WITH STROKE,1SMALL LETTER Y WITH STROKE,3TURNED A,3ALPHA,3TURNED ALPHA",
      "3B WITH HOOK,3OPEN O,3C WITH CURL,3D WITH TAIL,5HOOK,3REVERSED E,3SCHWA,4WITH HOOK,3OPEN E",
      "3REVERSED OPEN E,6WITH HOOK,3CLOSED REVERSED OPEN E,3DOTLESS J WITH STROKE,3G WITH HOOK",
      "3SCRIPT G,1LETTER SMALL CAPITAL G,1SMALL LETTER GAMMA,3RAMS HORN,3TURNED H,3H WITH HOOK",
      "3HENG WITH HOOK,3I WITH STROKE,3IOTA,1LETTER SMALL CAPITAL I",
      "1SMALL LETTER L WITH MIDDLE TILDE,5BELT,5RETROFLEX HOOK,3LEZH,3TURNED M,5WITH LONG LEG",
      "3M WITH HOOK,3N WITH LEFT HOOK,5RETROFLEX HOOK,1LETTER SMALL CAPITAL N",
      "1SMALL LETTER BARRED O,1LETTER SMALL CAPITAL OE,1SMALL LETTER CLOSED OMEGA,3PHI,3TURNED R",
      "5WITH LONG LEG,6HOOK,3R WITH LONG LEG,5TAIL,5FISHHOOK,3REVERSED R WITH FISHHOOK",
      "1LETTER SMALL CAPITAL R,4INVERTED R,1SMALL LETTER S WITH HOOK,3ESH",
      "3DOTLESS J WITH STROKE AND HOOK,3SQUAT REVERSED ESH,3ESH WITH CURL,3TURNED T",
      "3T WITH RETROFLEX HOOK,3U BAR,3UPSILON,3V WITH HOOK,3TURNED V,4W,4Y,1LETTER SMALL CAPITAL Y",
      "1SMALL LETTER Z WITH RETROFLEX HOOK,5CURL,3EZH,4WITH CURL,1LETTER GLOTTAL STOP",
      "2PHARYNGEAL VOICED FRICATIVE,2INVERTED GLOTTAL STOP,2STRETCHED C,2BILABIAL CLICK",
      "2SMALL CAPITAL B,1SMALL LETTER CLOSED OPEN E,1LETTER SMALL CAPITAL G WITH HOOK,4H",
      "1SMALL LETTER J WITH CROSSED-TAIL,3TURNED K,1LETTER SMALL CAPITAL L",
      "1SMALL LETTER Q WITH HOOK,1LETTER GLOTTAL STOP WITH STROKE",
      "2REVERSED GLOTTAL STOP WITH STROKE,1SMALL LETTER DZ DIGRAPH,3DEZH DIGRAPH",
      "3DZ DIGRAPH WITH CURL,3TS DIGRAPH,3TESH DIGRAPH,3TC DIGRAPH WITH CURL,3FENG DIGRAPH",
      "3LS DIGRAPH,3LZ DIGRAPH,1LETTER BILABIAL PERCUSSIVE,2BIDENTAL PERCUSSIVE",
      "1SMALL LETTER TURNED H WITH FISHHOOK,7AND TAIL,0MODIFIER LETTER SMALL H,4WITH HOOK,3J,3R",
      "3TURNED R,5WITH HOOK,3CAPITAL INVERTED R,3W,3Y,2PRIME,2DOUBLE PRIME,2TURNED COMMA",
      "2APOSTROPHE,2REVERSED COMMA,2RIGHT HALF RING,2LEFT HALF RING,2GLOTTAL STOP",
      "2REVERSED GLOTTAL STOP,2LEFT ARROWHEAD,2RIGHT ARROWHEAD,2UP ARROWHEAD,2DOWN ARROWHEAD",
      "2CIRCUMFLEX ACCENT,0CARON,0MODIFIER LETTER VERTICAL LINE,2MACRON,2ACUTE ACCENT",
      "2GRAVE ACCENT,2LOW VERTICAL LINE,3MACRON,3GRAVE ACCENT,3ACUTE ACCENT,2TRIANGULAR COLON",
      "2HALF TRIANGULAR COLON,2CENTRED RIGHT HALF RING,3LEFT HALF RING,2UP TACK,2DOWN TACK",
      "2PLUS SIGN,2MINUS SIGN,0BREVE,0DOT ABOVE,0RING ABOVE,0OGONEK,0SMALL TILDE",
      "0DOUBLE ACUTE ACCENT,0MODIFIER LETTER RHOTIC HOOK,2CROSS ACCENT,2SMALL GAMMA,3L,3S,3X",
      "3REVERSED GLOTTAL STOP,2EXTRA-HIGH TONE BAR,2HIGH TONE BAR,2MID TONE BAR,2LOW TONE BAR",
      "2EXTRA-LOW TONE BAR,2YIN DEPARTING TONE MARK,2YANG DEPARTING TONE MARK,2VOICING",
      "2UNASPIRATED,2DOUBLE APOSTROPHE,2LOW DOWN ARROWHEAD,3UP ARROWHEAD,3LEFT ARROWHEAD",
      "3RIGHT ARROWHEAD,3RING,2MIDDLE GRAVE ACCENT,3DOUBLE GRAVE ACCENT,4ACUTE ACCENT,2LOW TILDE",
      "2RAISED COLON,2BEGIN HIGH TONE,2END HIGH TONE,2BEGIN LOW TONE,2END LOW TONE,2SHELF",
      "2OPEN SHELF,2LOW LEFT ARROW,0COMBINING GRAVE ACCENT,1ACUTE ACCENT,1CIRCUMFLEX ACCENT,1TILDE",
      "1MACRON,1OVERLINE,1BREVE,1DOT ABOVE,1DIAERESIS,1HOOK ABOVE,1RING ABOVE,1DOUBLE ACUTE ACCENT",
      "1CARON,1VERTICAL LINE ABOVE,1DOUBLE VERTICAL LINE ABOVE,2GRAVE ACCENT,1CANDRABINDU",
      "1INVERTED BREVE,1TURNED COMMA ABOVE,1COMMA ABOVE,1REVERSED COMMA ABOVE,1COMMA ABOVE RIGHT",
      "1GRAVE ACCENT BELOW,1ACUTE ACCENT BELOW,1LEFT TACK BELOW,1RIGHT TACK BELOW",
      "1LEFT ANGLE ABOVE,1HORN,1LEFT HALF RING BELOW,1UP TACK BELOW,1DOWN TACK BELOW",
      "1PLUS SIGN BELOW,1MINUS SIGN BELOW,1PALATALIZED HOOK BELOW,1RETROFLEX HOOK BELOW,1DOT BELOW",
      "1DIAERESIS BELOW,1RING BELOW,1COMMA BELOW,1CEDILLA,1OGONEK,1VERTICAL LINE BELOW",
      "1BRIDGE BELOW,1INVERTED DOUBLE ARCH BELOW,1CARON BELOW,1CIRCUMFLEX ACCENT BELOW",
      "1BREVE BELOW,1INVERTED BREVE BELOW,1TILDE BELOW,1MACRON BELOW,1LOW LINE,1DOUBLE LOW LINE",
      "1TILDE OVERLAY,1SHORT STROKE OVERLAY,1LONG STROKE OVERLAY,1SHORT SOLIDUS OVERLAY",
      "1LONG SOLIDUS OVERLAY,1RIGHT HALF RING BELOW,1INVERTED BRIDGE BELOW,1SQUARE BELOW",
      "1SEAGULL BELOW,1X ABOVE,1VERTICAL TILDE,1DOUBLE OVERLINE,1GRAVE TONE MARK,1ACUTE TONE MARK",
      "1GREEK PERISPOMENI,2KORONIS,2DIALYTIKA TONOS,2YPOGEGRAMMENI,1BRIDGE ABOVE",
      "1EQUALS SIGN BELOW,1DOUBLE VERTICAL LINE BELOW,1LEFT ANGLE BELOW,1NOT TILDE ABOVE",
      "1HOMOTHETIC ABOVE,1ALMOST EQUAL TO ABOVE,1LEFT RIGHT ARROW BELOW,1UPWARDS ARROW BELOW",
      "1GRAPHEME JOINER,1RIGHT ARROWHEAD ABOVE,1LEFT HALF RING ABOVE,1FERMATA,1X BELOW",
      "1LEFT ARROWHEAD BELOW,1RIGHT ARROWHEAD BELOW,3AND UP ARROWHEAD BELOW,2HALF RING ABOVE",
      "1DOT ABOVE RIGHT,1ASTERISK BELOW,1DOUBLE RING BELOW,1ZIGZAG ABOVE,1DOUBLE BREVE BELOW",
      "2BREVE,2MACRON,3BELOW,2TILDE,2INVERTED BREVE,2RIGHTWARDS ARROW BELOW,1LATIN SMALL LETTER A",
      "4E,4I,4O,4U,4C,4D,4H,4M,4R,4T,4V,4X,0GREEK CAPITAL LETTER HETA,1SMALL LETTER HETA",
      "1CAPITAL LETTER ARCHAIC SAMPI,1SMALL LETTER ARCHAIC SAMPI,1NUMERAL SIGN,1LOWER NUMERAL SIGN",
      "1CAPITAL LETTER PAMPHYLIAN DIGAMMA,1SMALL LETTER PAMPHYLIAN DIGAMMA"]⟩,
    ⟨0x37A, ["0GREEK YPOGEGRAMMENI,1SMALL REVERSED LUNATE SIGMA SYMBOL,2DOTTED LUNATE SIGMA SYMBOL",
      "2REVERSED DOTTED LUNATE SIGMA SYMBOL,1QUESTION MARK,1CAPITAL LETTER YOT"]⟩,
    ⟨0x384, ["0GREEK TONOS,1DIALYTIKA TONOS,1CAPITAL LETTER ALPHA WITH TONOS,1ANO TELEIA",
      "1CAPITAL LETTER EPSILON WITH TONOS,3ETA WITH TONOS,3IOTA WITH TONOS"]⟩,
    ⟨0x38C, ["0GREEK CAPITAL LETTER OMICRON WITH TONOS"]⟩,
    ⟨0x38E, ["0GREEK CAPITAL LETTER UPSILON WITH TONOS,3OMEGA WITH TONOS",
      "1SMALL LETTER IOTA WITH DIALYTIKA AND TONOS,1CAPITAL LETTER ALPHA,3BETA,3GAMMA,3DELTA",
      "3EPSILON,3ZETA,3ETA,3THETA,3IOTA,3KAPPA,3LAMDA,3MU,3NU,3XI,3OMICRON,3PI,3RHO"]⟩,
    ⟨0x3A3, ["0GREEK CAPITAL LETTER SIGMA,3TAU,3UPSILON,3PHI,3CHI,3PSI,3OMEGA,3IOTA WITH DIALYTIKA",
      "3UPSILON WITH DIALYTIKA,1SMALL LETTER ALPHA WITH TONOS,3EPSILON WITH TONOS,3ETA WITH TONOS",
      "3IOTA WITH TONOS,3UPSILON WITH DIALYTIKA AND TONOS,3ALPHA,3BETA,3GAMMA,3DELTA,3EPSILON",
      "3ZETA,3ETA,3THETA,3IOTA,3KAPPA,3LAMDA,3MU,3NU,3XI,3OMICRON,3PI,3RHO,3FINAL SIGMA,3SIGMA",
      "3TAU,3UPSILON,3PHI,3CHI,3PSI,3OMEGA,3IOTA WITH DIALYTIKA,3UPSILON WITH DIALYTIKA",
      "3OMICRON WITH TONOS,3UPSILON WITH TONOS,3OMEGA WITH TONOS,1CAPITAL KAI SYMBOL,1BETA SYMBOL",
      "1THETA SYMBOL,1UPSILON WITH HOOK SYMBOL,3ACUTE AND HOOK SYMBOL,3DIAERESIS AND HOOK SYMBOL",
      "1PHI SYMBOL,1PI SYMBOL,1KAI SYMBOL,1LETTER ARCHAIC KOPPA,1SMALL LETTER ARCHAIC KOPPA",
      "1LETTER STIGMA,1SMALL LETTER STIGMA,1LETTER DIGAMMA,1SMALL LETTER DIGAMMA,1LETTER KOPPA",
      "1SMALL LETTER KOPPA,1LETTER SAMPI,1SMALL LETTER SAMPI,0COPTIC CAPITAL LETTER SHEI",
      "1SMALL LETTER SHEI,1CAPITAL LETTER FEI,1SMALL LETTER FEI,1CAPITAL LETTER KHEI",
      "1SMALL LETTER KHEI,1CAPITAL LETTER HORI,1SMALL LETTER HORI,1CAPITAL LETTER GANGIA",
      "1SMALL LETTER GANGIA,1CAPITAL LETTER SHIMA,1SMALL LETTER SHIMA,1CAPITAL LETTER DEI",
      "1SMALL LETTER DEI,0GREEK KAPPA SYMBOL,1RHO SYMBOL,1LUNATE SIGMA SYMBOL,1LETTER YOT",
      "1CAPITAL THETA SYMBOL,1LUNATE EPSILON SYMBOL,1REVERSED LUNATE EPSILON SYMBOL",
      "1CAPITAL LETTER SHO,1SMALL LETTER SHO,1CAPITAL LUNATE SIGMA SYMBOL,2LETTER SAN",
      "1SMALL LETTER SAN,1RHO WITH STROKE SYMBOL,1CAPITAL REVERSED LUNATE SIGMA SYMBOL",
      "2DOTTED LUNATE SIGMA SYMBOL,2REVERSED DOTTED LUNATE SIGMA SYMBOL",
      "0CYRILLIC CAPITAL LETTER IE WITH GRAVE,3IO,3DJE,3GJE,3UKRAINIAN IE,3DZE",
      "3BYELORUSSIAN-UKRAINIAN I,3YI,3JE,3LJE,3NJE,3TSHE,3KJE,3I WITH GRAVE,3SHORT U,3DZHE,3A,3BE",
      "3VE,3GHE,3DE,3IE,3ZHE,3ZE,3I,3SHORT I,3KA,3EL,3EM,3EN,3O,3PE,3ER,3ES,3TE,3U,3EF,3HA,3TSE",
      "3CHE,3SHA,3SHCHA,3HARD SIGN,3YERU,3SOFT SIGN,3E,3YU,3YA,1SMALL LETTER A,3BE,3VE,3GHE,3DE",
      "3IE,3ZHE,3ZE,3I,3SHORT I,3KA,3EL,3EM,3EN,3O,3PE,3ER,3ES,3TE,3U,3EF,3HA,3TSE,3CHE,3SHA",
      "3SHCHA,3HARD SIGN,3YERU,3SOFT SIGN,3E,3YU,3YA,3IE WITH GRAVE,3IO,3DJE,3GJE,3UKRAINIAN IE",
      "3DZE,3BYELORUSSIAN-UKRAINIAN I,3YI,3JE,3LJE,3NJE,3TSHE,3KJE,3I WITH GRAVE,3SHORT U,3DZHE",
      "1CAPITAL LETTER OMEGA,1SMALL LETTER OMEGA,1CAPITAL LETTER YAT,1SMALL LETTER YAT",
      "1CAPITAL LETTER IOTIFIED E,1SMALL LETTER IOTIFIED E,1CAPITAL LETTER LITTLE YUS",
      "1SMALL LETTER LITTLE YUS,1CAPITAL LETTER IOTIFIED LITTLE YUS",
      "1SMALL LETTER IOTIFIED LITTLE YUS,1CAPITAL LETTER BIG YUS,1SMALL LETTER BIG YUS",
      "1CAPITAL LETTER IOTIFIED BIG YUS,1SMALL LETTER IOTIFIED BIG YUS,1CAPITAL LETTER KSI",
      "1SMALL LETTER KSI,1CAPITAL LETTER PSI,1SMALL LETTER PSI,1CAPITAL LETTER FITA",
      "1SMALL LETTER FITA,1CAPITAL LETTER IZHITSA,1SMALL LETTER IZHITSA",
      "1CAPITAL LETTER IZHITSA WITH DOUBLE GRAVE ACCENT",
      "1SMALL LETTER IZHITSA WITH DOUBLE GRAVE ACCENT,1CAPITAL LETTER UK,1SMALL LETTER UK",
      "1CAPITAL LETTER ROUND OMEGA,1SMALL LETTER ROUND OMEGA,1CAPITAL LETTER OMEGA WITH TITLO",
      "1SMALL LETTER OMEGA WITH TITLO,1CAPITAL LETTER OT,1SMALL LETTER OT,1CAPITAL LETTER KOPPA",
      "1SMALL LETTER KOPPA,1THOUSANDS SIGN,0COMBINING CYRILLIC TITLO,2PALATALIZATION",
      "2DASIA PNEUMATA,2PSILI PNEUMATA,2POKRYTIE,2HUNDRED THOUSANDS SIGN,2MILLIONS SIGN",
      "0CYRILLIC CAPITAL LETTER SHORT I WITH TAIL,1SMALL LETTER SHORT I WITH TAIL",
      "1CAPITAL LETTER SEMISOFT SIGN,1SMALL LETTER SEMISOFT SIGN,1CAPITAL LETTER ER WITH TICK",
      "1SMALL LETTER ER WITH TICK,1CAPITAL LETTER GHE WITH UPTURN,1SMALL LETTER GHE WITH UPTURN",
      "1CAPITAL LETTER GHE WITH STROKE,1SMALL LETTER GHE WITH STROKE",
      "1CAPITAL LETTER GHE WITH MIDDLE HOOK,1SMALL LETTER GHE WITH MIDDLE HOOK",
      "1CAPITAL LETTER ZHE WITH DESCENDER,1SMALL LETTER ZHE WITH DESCENDER",
      "1CAPITAL LETTER ZE WITH DESCENDER,1SMALL LETTER ZE WITH DESCENDER",
      "1CAPITAL LETTER KA WITH DESCENDER,1SMALL LETTER KA WITH DESCENDER",
      "1CAPITAL LETTER KA WITH VERTICAL STROKE,1SMALL LETTER KA WITH VERTICAL STROKE",
      "1CAPITAL LETTER KA WITH STROKE,1SMALL LETTER KA WITH STROKE,1CAPITAL LETTER BASHKIR KA",
      "1SMALL LETTER BASHKIR KA,1CAPITAL LETTER EN WITH DESCENDER,1SMALL LETTER EN WITH DESCENDER",
      "1CAPITAL LIGATURE EN GHE,1SMALL LIGATURE EN GHE,1CAPITAL LETTER PE WITH MIDDLE HOOK",
      "1SMALL LETTER PE WITH MIDDLE HOOK,1CAPITAL LETTER ABKHASIAN HA,1SMALL LETTER ABKHASIAN HA",
      "1CAPITAL LETTER ES WITH DESCENDER,1SMALL LETTER ES WITH DESCENDER",
      "1CAPITAL LETTER TE WITH DESCENDER,1SMALL LETTER TE WITH DESCENDER",
      "1CAPITAL LETTER STRAIGHT U,1SMALL LETTER STRAIGHT U,1CAPITAL LETTER STRAIGHT U WITH STROKE",
      "1SMALL LETTER STRAIGHT U WITH STROKE,1CAPITAL LETTER HA WITH DESCENDER",
      "1SMALL LETTER HA WITH DESCENDER,1CAPITAL LIGATURE TE TSE,1SMALL LIGATURE TE TSE",
      "1CAPITAL LETTER CHE WITH DESCENDER,1SMALL LETTER CHE WITH DESCENDER",
      "1CAPITAL LETTER CHE WITH VERTICAL STROKE,1SMALL LETTER CHE WITH VERTICAL STROKE",
      "1CAPITAL LETTER SHHA,1SMALL LETTER SHHA,1CAPITAL LETTER ABKHASIAN CHE",
      "1SMALL LETTER ABKHASIAN CHE,1CAPITAL LETTER ABKHASIAN CHE WITH DESCENDER",
      "1SMALL LETTER ABKHASIAN CHE WITH DESCENDER,1LETTER PALOCHKA,1CAPITAL LETTER ZHE WITH BREVE",
      "1SMALL LETTER ZHE WITH BREVE,1CAPITAL LETTER KA WITH HOOK,1SMALL LETTER KA WITH HOOK",
      "1CAPITAL LETTER EL WITH TAIL,1SMALL LETTER EL WITH TAIL,1CAPITAL LETTER EN WITH HOOK",
      "1SMALL LETTER EN WITH HOOK,1CAPITAL LETTER EN WITH TAIL,1SMALL LETTER EN WITH TAIL",
      "1CAPITAL LETTER KHAKASSIAN CHE,1SMALL LETTER KHAKASSIAN CHE,1CAPITAL LETTER EM WITH TAIL",
      "1SMALL LETTER EM WITH TAIL,3PALOCHKA,1CAPITAL LETTER A WITH BREVE",
      "1SMALL LETTER A WITH BREVE,1CAPITAL LETTER A WITH DIAERESIS,1SMALL LETTER A WITH DIAERESIS",
      "1CAPITAL LIGATURE A IE,1SMALL LIGATURE A IE,1CAPITAL LETTER IE WITH BREVE",
      "1SMALL LETTER IE WITH BREVE,1CAPITAL LETTER SCHWA,1SMALL LETTER SCHWA",
      "1CAPITAL LETTER SCHWA WITH DIAERESIS,1SMALL LETTER SCHWA WITH DIAERESIS",
      "1CAPITAL LETTER ZHE WITH DIAERESIS,1SMALL LETTER ZHE WITH DIAERESIS",
      "1CAPITAL LETTER ZE WITH DIAERESIS,1SMALL LETTER ZE WITH DIAERESIS",
      "1CAPITAL LETTER ABKHASIAN DZE,1SMALL LETTER ABKHASIAN DZE,1CAPITAL LETTER I WITH MACRON",
      "1SMALL LETTER I WITH MACRON,1CAPITAL LETTER I WITH DIAERESIS,1SMALL LETTER I WITH DIAERESIS",
      "1CAPITAL LETTER O WITH DIAERESIS,1SMALL LETTER O WITH DIAERESIS,1CAPITAL LETTER BARRED O",
      "1SMALL LETTER BARRED O,1CAPITAL LETTER BARRED O WITH DIAERESIS",
      "1SMALL LETTER BARRED O WITH DIAERESIS,1CAPITAL LETTER E WITH DIAERESIS",
      "1SMALL LETTER E WITH DIAERESIS,1CAPITAL LETTER U WITH MACRON,1SMALL LETTER U WITH MACRON",
      "1CAPITAL LETTER U WITH DIAERESIS,1SMALL LETTER U WITH DIAERESIS",
      "1CAPITAL LETTER U WITH DOUBLE ACUTE,1SMALL LETTER U WITH DOUBLE ACUTE",
      "1CAPITAL LETTER CHE WITH DIAERESIS,1SMALL LETTER CHE WITH DIAERESIS",
      "1CAPITAL LETTER GHE WITH DESCENDER,1SMALL LETTER GHE WITH DESCENDER",
      "1CAPITAL LETTER YERU WITH DIAERESIS,1SMALL LETTER YERU WITH DIAERESIS",
      "1CAPITAL LETTER GHE WITH STROKE AND HOOK,1SMALL LETTER GHE WITH STROKE AND HOOK",
      "1CAPITAL LETTER HA WITH HOOK,1SMALL LETTER HA WITH HOOK,1CAPITAL LETTER HA WITH STROKE",
      "1SMALL LETTER HA WITH STROKE,1CAPITAL LETTER KOMI DE,1SMALL LETTER KOMI DE",
      "1CAPITAL LETTER KOMI DJE,1SMALL LETTER KOMI DJE,1CAPITAL LETTER KOMI ZJE",
      "1SMALL LETTER KOMI ZJE,1CAPITAL LETTER KOMI DZJE,1SMALL LETTER KOMI DZJE",
      "1CAPITAL LETTER KOMI LJE,1SMALL LETTER KOMI LJE,1CAPITAL LETTER KOMI NJE",
      "1SMALL LETTER KOMI NJE,1CAPITAL LETTER KOMI SJE,1SMALL LETTER KOMI SJE",
      "1CAPITAL LETTER KOMI TJE,1SMALL LETTER KOMI TJE,1CAPITAL LETTER REVERSED ZE",
      "1SMALL LETTER REVERSED ZE,1CAPITAL LETTER EL WITH HOOK,1SMALL LETTER EL WITH HOOK",
      "1CAPITAL LETTER LHA,1SMALL LETTER LHA,1CAPITAL LETTER RHA,1SMALL LETTER RHA",
      "1CAPITAL LETTER YAE,1SMALL LETTER YAE,1CAPITAL LETTER QA,1SMALL LETTER QA",
      "1CAPITAL LETTER WE,1SMALL LETTER WE,1CAPITAL LETTER ALEUT KA,1SMALL LETTER ALEUT KA",
      "1CAPITAL LETTER EL WITH MIDDLE HOOK,1SMALL LETTER EL WITH MIDDLE HOOK",
      "1CAPITAL LETTER EN WITH MIDDLE HOOK,1SMALL LETTER EN WITH MIDDLE HOOK",
      "1CAPITAL LETTER PE WITH DESCENDER,1SMALL LETTER PE WITH DESCENDER",
      "1CAPITAL LETTER SHHA WITH DESCENDER,1SMALL LETTER SHHA WITH DESCENDER",
      "1CAPITAL LETTER EN WITH LEFT HOOK,1SMALL LETTER EN WITH LEFT HOOK,1CAPITAL LETTER DZZHE",
      "1SMALL LETTER DZZHE,1CAPITAL LETTER DCHE,1SMALL LETTER DCHE",
      "1CAPITAL LETTER EL WITH DESCENDER,1SMALL LETTER EL WITH DESCENDER"]⟩,
    ⟨0x531, ["0ARMENIAN CAPITAL LETTER AYB,3BEN,3GIM,3DA,3ECH,3ZA,3EH,3ET,3TO,3ZHE,3INI,3LIWN,3XEH",
      "3CA,3KEN,3HO,3JA,3GHAD,3CHEH,3MEN,3YI,3NOW,3SHA,3VO,3CHA,3PEH,3JHEH,3RA,3SEH,3VEW,3TIWN",
      "3REH,3CO,3YIWN,3PIWR,3KEH,3OH,3FEH"]⟩,
    ⟨0x559, ["0ARMENIAN MODIFIER LETTER LEFT HALF RING,1APOSTROPHE,1EMPHASIS MARK",
      "1EXCLAMATION MARK,1COMMA,1QUESTION MARK,1ABBREVIATION MARK,1SMALL LETTER TURNED AYB,3AYB",
      "3BEN,3GIM,3DA,3ECH,3ZA,3EH,3ET,3TO,3ZHE,3INI,3LIWN,3XEH,3CA,3KEN,3HO,3JA,3GHAD,3CHEH,3MEN",
      "3YI,3NOW,3SHA,3VO,3CHA,3PEH,3JHEH,3RA,3SEH,3VEW,3TIWN,3REH,3CO,3YIWN,3PIWR,3KEH,3OH,3FEH",
      "2LIGATURE ECH YIWN,2LETTER YI WITH STROKE,1FULL STOP,1HYPHEN"]⟩,
    ⟨0x58D, ["0RIGHT-FACING ARMENIAN ETERNITY SIGN,0LEFT-FACING ARMENIAN ETERNITY SIGN",
      "0ARMENIAN DRAM SIGN"]⟩,
    ⟨0x591, ["0HEBREW ACCENT ETNAHTA,2SEGOL,2SHALSHELET,2ZAQEF QATAN,3GADOL,2TIPEHA,2REVIA,2ZARQA",
      "2PASHTA,2YETIV,2TEVIR,2GERESH,3MUQDAM,2GERSHAYIM,2QARNEY PARA,2TELISHA GEDOLA,2PAZER",
      "2ATNAH HAFUKH,2MUNAH,2MAHAPAKH,2MERKHA,3KEFULA,2DARGA,2QADMA,2TELISHA QETANA",
      "2YERAH BEN YOMO,2OLE,2ILUY,2DEHI,2ZINOR,1MARK MASORA CIRCLE,1POINT SHEVA,2HATAF SEGOL",
      "3PATAH,3QAMATS,2HIRIQ,2TSERE,2SEGOL,2PATAH,2QAMATS,2HOLAM,3HASER FOR VAV,2QUBUTS",
      "2DAGESH OR MAPIQ,2METEG,1PUNCTUATION MAQAF,1POINT RAFE,1PUNCTUATION PASEQ,1POINT SHIN DOT",
      "2SIN DOT,1PUNCTUATION SOF PASUQ,1MARK UPPER DOT,2LOWER DOT,1PUNCTUATION NUN HAFUKHA",
      "1POINT QAMATS QATAN"]⟩,
    ⟨0x5D0, ["0HEBREW LETTER ALEF,2BET,2GIMEL,2DALET,2HE,2VAV,2ZAYIN,2HET,2TET,2YOD,2FINAL KAF",
      "2KAF,2LAMED,2FINAL MEM,2MEM,2FINAL NUN,2NUN,2SAMEKH,2AYIN,2FINAL PE,2PE,2FINAL TSADI,2TSADI",
      "2QOF,2RESH,2SHIN,2TAV"]⟩,
    ⟨0x5EF, ["0HEBREW YOD TRIANGLE,1LIGATURE YIDDISH DOUBLE VAV,3VAV YOD,3DOUBLE YOD",
      "1PUNCTUATION GERESH,2GERSHAYIM"]⟩,
    ⟨0x600, ["0ARABIC NUMBER SIGN,1SIGN SANAH,1FOOTNOTE MARKER,1SIGN SAFHA,2SAMVAT",
      "1NUMBER MARK ABOVE,0ARABIC-INDIC CUBE ROOT,1FOURTH ROOT,0ARABIC RAY",
      "0ARABIC-INDIC PER MILLE SIGN,2TEN THOUSAND SIGN,0AFGHANI SIGN,0ARABIC COMMA,1DATE SEPARATOR",
      "1POETIC VERSE SIGN,1SIGN MISRA,2SALLALLAHOU ALAYHE WASSALLAM,2ALAYHE ASSALLAM",
      "2RAHMATULLAH ALAYHE,2RADI ALLAHOU ANHU,2TAKHALLUS,1SMALL HIGH TAH",
      "3LIGATURE ALEF WITH LAM WITH YEH,3ZAIN,2FATHA,2DAMMA,2KASRA,1SEMICOLON,1LETTER MARK",
      "1END OF TEXT MARK,1TRIPLE DOT PUNCTUATION MARK,1QUESTION MARK,1LETTER KASHMIRI YEH,2HAMZA",
      "2ALEF WITH MADDA ABOVE,4HAMZA ABOVE,2WAW WITH HAMZA ABOVE,2ALEF WITH HAMZA BELOW",
      "2YEH WITH HAMZA ABOVE,2ALEF,2BEH,2TEH MARBUTA,2TEH,2THEH,2JEEM,2HAH,2KHAH,2DAL,2THAL,2REH",
      "2ZAIN,2SEEN,2SHEEN,2SAD,2DAD,2TAH,2ZAH,2AIN,2GHAIN,2KEHEH WITH TWO DOTS ABOVE",
      "4THREE DOTS BELOW,2FARSI YEH WITH INVERTED V,5TWO DOTS ABOVE,5THREE DOTS ABOVE,1TATWEEL",
      "1LETTER FEH,2QAF,2KAF,2LAM,2MEEM,2NOON,2HEH,2WAW,2ALEF MAKSURA,2YEH,1FATHATAN,1DAMMATAN",
      "1KASRATAN,1FATHA,1DAMMA,1KASRA,1SHADDA,1SUKUN,1MADDAH ABOVE,1HAMZA ABOVE,2BELOW",
      "1SUBSCRIPT ALEF,1INVERTED DAMMA,1MARK NOON GHUNNA,1ZWARAKAY,1VOWEL SIGN SMALL V ABOVE",
      "3INVERTED SMALL V ABOVE,3DOT BELOW,1REVERSED DAMMA,1FATHA WITH TWO DOTS,1WAVY HAMZA BELOW",
      "0ARABIC-INDIC DIGIT ZERO,2ONE,2TWO,2THREE,2FOUR,2FIVE,2SIX,2SEVEN,2EIGHT,2NINE",
      "0ARABIC PERCENT SIGN,1DECIMAL SEPARATOR,1THOUSANDS SEPARATOR,1FIVE POINTED STAR",
      "1LETTER DOTLESS BEH,3QAF,2SUPERSCRIPT ALEF,2ALEF WASLA,3WITH WAVY HAMZA ABOVE,6BELOW",
      "2HIGH HAMZA,4ALEF,4WAW,2U WITH HAMZA ABOVE,2HIGH HAMZA YEH,2TTEH,2TTEHEH,2BEEH",
      "2TEH WITH RING,4THREE DOTS ABOVE DOWNWARDS,2PEH,2TEHEH,2BEHEH,2HAH WITH HAMZA ABOVE",
      "4TWO DOTS VERTICAL ABOVE,2NYEH,2DYEH,2HAH WITH THREE DOTS ABOVE,2TCHEH,2TCHEHEH,2DDAL",
      "2DAL WITH RING,4DOT BELOW,6AND SMALL TAH,2DAHAL,2DDAHAL,2DUL",
      "2DAL WITH THREE DOTS ABOVE DOWNWARDS,4FOUR DOTS ABOVE,2RREH,2REH WITH SMALL V,4RING",
      "4DOT BELOW,4SMALL V BELOW,4DOT BELOW AND DOT ABOVE,4TWO DOTS ABOVE,2JEH",
      "2REH WITH FOUR DOTS ABOVE,2SEEN WITH DOT BELOW AND DOT ABOVE,4THREE DOTS BELOW",
      "7AND THREE DOTS ABOVE,2SAD WITH TWO DOTS BELOW,4THREE DOTS ABOVE,2TAH WITH THREE DOTS ABOVE",
      "2AIN WITH THREE DOTS ABOVE,2DOTLESS FEH,2FEH WITH DOT MOVED BELOW,5BELOW,2VEH",
      "2FEH WITH THREE DOTS BELOW,2PEHEH,2QAF WITH DOT ABOVE,4THREE DOTS ABOVE,2KEHEH,2SWASH KAF",
      "2KAF WITH RING,4DOT ABOVE,2NG,2KAF WITH THREE DOTS BELOW,2GAF,3WITH RING,2NGOEH",
      "2GAF WITH TWO DOTS BELOW,2GUEH,2GAF WITH THREE DOTS ABOVE,2LAM WITH SMALL V,4DOT ABOVE",
      "4THREE DOTS ABOVE,6BELOW,2NOON WITH DOT BELOW,3GHUNNA,2RNOON,2NOON WITH RING",
      "4THREE DOTS ABOVE,2HEH DOACHASHMEE,2TCHEH WITH DOT ABOVE,2HEH WITH YEH ABOVE,3GOAL",
      "4WITH HAMZA ABOVE,2TEH MARBUTA GOAL,2WAW WITH RING,2KIRGHIZ OE,2OE,2U,2YU,2KIRGHIZ YU",
      "2WAW WITH TWO DOTS ABOVE,2VE,2FARSI YEH,2YEH WITH TAIL,4SMALL V,2WAW WITH DOT ABOVE,2E",
      "2YEH WITH THREE DOTS BELOW,3BARREE,4WITH HAMZA ABOVE,1FULL STOP,1LETTER AE",
      "1SMALL HIGH LIGATURE SAD WITH LAM WITH ALEF MAKSURA,4QAF WITH LAM WITH ALEF MAKSURA",
      "3MEEM INITIAL FORM,3LAM ALEF,3JEEM,3THREE DOTS,3SEEN,1END OF AYAH,1START OF RUB EL HIZB",
      "1SMALL HIGH ROUNDED ZERO,3UPRIGHT RECTANGULAR ZERO,3DOTLESS HEAD OF KHAH",
      "3MEEM ISOLATED FORM,2LOW SEEN,2HIGH MADDA,2WAW,2YEH,2HIGH YEH,3NOON,1PLACE OF SAJDAH",
      "1EMPTY CENTRE LOW STOP,3HIGH STOP,1ROUNDED HIGH STOP WITH FILLED CENTRE,1SMALL LOW MEEM",
      "1LETTER DAL WITH INVERTED V,2REH WITH INVERTED V,0EXTENDED ARABIC-INDIC DIGIT ZERO,3ONE",
      "3TWO,3THREE,3FOUR,3FIVE,3SIX,3SEVEN,3EIGHT,3NINE,0ARABIC LETTER SHEEN WITH DOT BELOW",
      "2DAD WITH DOT BELOW,2GHAIN WITH DOT BELOW,1SIGN SINDHI AMPERSAND,3POSTPOSITION MEN",
      "1LETTER HEH WITH INVERTED V,0SYRIAC END OF PARAGRAPH,1SUPRALINEAR FULL STOP",
      "1SUBLINEAR FULL STOP,1SUPRALINEAR COLON,1SUBLINEAR COLON,1HORIZONTAL COLON",
      "1COLON SKEWED LEFT,3RIGHT,1SUPRALINEAR COLON SKEWED LEFT,1SUBLINEAR COLON SKEWED RIGHT",
      "1CONTRACTION,1HARKLEAN OBELUS,2METOBELUS,2ASTERISCUS"]⟩,
    ⟨0x70F, ["0SYRIAC ABBREVIATION MARK,1LETTER ALAPH,2SUPERSCRIPT ALAPH,2BETH,2GAMAL,3GARSHUNI",
      "2DALATH,2DOTLESS DALATH RISH,2HE,2WAW,2ZAIN,2HETH,2TETH,3GARSHUNI,2YUDH,3HE,2KAPH,2LAMADH",
      "2MIM,2NUN,2SEMKATH,2FINAL SEMKATH,2E,2PE,2REVERSED PE,2SADHE,2QAPH,2RISH,2SHIN,2TAW",
      "2PERSIAN BHETH,3GHAMAL,3DHALATH,1PTHAHA ABOVE,2BELOW,2DOTTED,1ZQAPHA ABOVE,2BELOW,2DOTTED",
      "1RBASA ABOVE,2BELOW,1DOTTED ZLAMA HORIZONTAL,3ANGULAR,1HBASA ABOVE,2BELOW",
      "1HBASA-ESASA DOTTED,1ESASA ABOVE,2BELOW,1RWAHA,1FEMININE DOT,1QUSHSHAYA,1RUKKAKHA",
      "1TWO VERTICAL DOTS ABOVE,4BELOW,1THREE DOTS ABOVE,3BELOW,1OBLIQUE LINE ABOVE,3BELOW,1MUSIC",
      "1BARREKH"]⟩,
    ⟨0x74D, ["0SYRIAC LETTER SOGDIAN ZHAIN,3KHAPH,3FE",
      "0ARABIC LETTER BEH WITH THREE DOTS HORIZONTALLY BELOW,4DOT BELOW AND THREE DOTS ABOVE",
      "4THREE DOTS POINTING UPWARDS BELOW,9AND TWO DOTS ABOVE,4TWO DOTS BELOW AND DOT ABOVE",
      "4INVERTED SMALL V BELOW,4SMALL V,2HAH WITH TWO DOTS ABOVE",
      "4THREE DOTS POINTING UPWARDS BELOW,2DAL WITH TWO DOTS VERTICALLY BELOW AND SMALL TAH",
      "4INVERTED SMALL V BELOW,2REH WITH STROKE,2SEEN WITH FOUR DOTS ABOVE",
      "2AIN WITH TWO DOTS ABOVE,4THREE DOTS POINTING DOWNWARDS ABOVE,4TWO DOTS VERTICALLY ABOVE",
      "2FEH WITH TWO DOTS BELOW,4THREE DOTS POINTING UPWARDS BELOW,2KEHEH WITH DOT ABOVE",
      "4THREE DOTS ABOVE,6POINTING UPWARDS BELOW,2MEEM WITH DOT ABOVE,5BELOW",
      "2NOON WITH TWO DOTS BELOW,4SMALL TAH,5V,2LAM WITH BAR,2REH WITH TWO DOTS VERTICALLY ABOVE",
      "4HAMZA ABOVE,2SEEN WITH TWO DOTS VERTICALLY ABOVE,2HAH WITH SMALL ARABIC LETTER TAH BELOW",
      "8AND TWO DOTS,2SEEN WITH SMALL ARABIC LETTER TAH AND TWO DOTS",
      "2REH WITH SMALL ARABIC LETTER TAH AND TWO DOTS,2HAH WITH SMALL ARABIC LETTER TAH ABOVE",
      "2ALEF WITH EXTENDED ARABIC-INDIC DIGIT TWO ABOVE,7THREE ABOVE",
      "2FARSI YEH WITH EXTENDED ARABIC-INDIC DIGIT TWO ABOVE,8THREE ABOVE,8FOUR BELOW",
      "2WAW WITH EXTENDED ARABIC-INDIC DIGIT TWO ABOVE,7THREE ABOVE",
      "2YEH BARREE WITH EXTENDED ARABIC-INDIC DIGIT TWO ABOVE,8THREE ABOVE",
      "2HAH WITH EXTENDED ARABIC-INDIC DIGIT FOUR BELOW",
      "2SEEN WITH EXTENDED ARABIC-INDIC DIGIT FOUR ABOVE,4INVERTED V,2KAF WITH TWO DOTS ABOVE",
      "0THAANA LETTER HAA,2SHAVIYANI,2NOONU,2RAA,2BAA,2LHAVIYANI,2KAAFU,2ALIFU,2VAAVU,2MEEMU",
      "2FAAFU,2DHAALU,2THAA,2LAAMU,2GAAFU,2GNAVIYANI,2SEENU,2DAVIYANI,2ZAVIYANI,2TAVIYANI,2YAA",
      "2PAVIYANI,2JAVIYANI,2CHAVIYANI,2TTAA,2HHAA,2KHAA,2THAALU,2ZAA,2SHEENU,2SAADHU,2DAADHU,2TO",
      "2ZO,2AINU,2GHAINU,2QAAFU,2WAAVU,1ABAFILI,1AABAAFILI,1IBIFILI,1EEBEEFILI,1UBUFILI,1OOBOOFILI",
      "1EBEFILI,1EYBEYFILI,1OBOFILI,1OABOAFILI,1SUKUN,1LETTER NAA"]⟩,
    ⟨0x7C0, ["0NKO DIGIT ZERO,2ONE,2TWO,2THREE,2FOUR,2FIVE,2SIX,2SEVEN,2EIGHT,2NINE,1LETTER A,2EE",
      "2I,2E,2U,2OO,2O,2DAGBASINNA,2N,2BA,2PA,2TA,2JA,2CHA,2DA,2RA,2RRA,2SA,2GBA,2FA,2KA,2LA",
      "2NA WOLOSO,2MA,2NYA,2NA,2HA,2WA,2YA,2NYA WOLOSO,2JONA JA,3CHA,3RA",
      "1COMBINING SHORT HIGH TONE,3LOW TONE,3RISING TONE,2LONG DESCENDING TONE,3HIGH TONE",
      "3LOW TONE,3RISING TONE,2NASALIZATION MARK,2DOUBLE DOT ABOVE,1HIGH TONE APOSTROPHE",
      "1LOW TONE APOSTROPHE,1SYMBOL OO DENNEN,2GBAKURUNEN,1COMMA,1EXCLAMATION MARK,1LAJANYALAN"]⟩,
    ⟨0x7FD, ["0NKO DANTAYALAN,1DOROME SIGN,1TAMAN SIGN,0SAMARITAN LETTER ALAF,2BIT,2GAMAN,2DALAT",
      "2IY,2BAA,2ZEN,2IT,2TIT,2YUT,2KAAF,2LABAT,2MIM,2NUN,2SINGAAT,2IN,2FI,2TSAADIY,2QUF,2RISH",
      "2SHAN,2TAAF,1MARK IN,2IN-ALAF,2OCCLUSION,2DAGESH,1MODIFIER LETTER EPENTHETIC YUT",
      "1MARK EPENTHETIC YUT,1VOWEL SIGN LONG E,3E,3OVERLONG AA,3LONG AA,3AA,3OVERLONG A,3LONG A,3A",
      "1MODIFIER LETTER SHORT A,1VOWEL SIGN SHORT A,3LONG U,3U,1MODIFIER LETTER I",
      "1VOWEL SIGN LONG I,3I,3O,3SUKUN,1MARK NEQUDAA"]⟩,
    ⟨0x830, ["0SAMARITAN PUNCTUATION NEQUDAA,2AFSAAQ,2ANGED,2BAU,2ATMAAU,2SHIYYAALAA",
      "1ABBREVIATION MARK,1PUNCTUATION MELODIC QITSA,2ZIQAA,2QITSA,2ZAEF,2TURU,2ARKAANU",
      "2SOF MASHFAAT,2ANNAAU"]⟩,
    ⟨0x840, ["0MANDAIC LETTER HALQA,2AB,2AG,2AD,2AH,2USHENNA,2AZ,2IT,2ATT,2AKSA,2AK,2AL,2AM,2AN",
      "2AS,2IN,2AP,2ASZ,2AQ,2AR,2ASH,2AT,2DUSHENNA,2KAD,2AIN,1AFFRICATION MARK,1VOCALIZATION MARK",
      "1GEMINATION MARK"]⟩,
    ⟨0x85E, ["0MANDAIC PUNCTUATION"]⟩,
    ⟨0x860, ["0SYRIAC LETTER MALAYALAM NGA,3JA,3NYA,3TTA,3NNA,3NNNA,3BHA,3RA,3LLA,3LLLA,3SSA"]⟩,
    ⟨0x870, ["0ARABIC LETTER ALEF WITH ATTACHED FATHA,5TOP RIGHT FATHA,4RIGHT MIDDLE STROKE",
      "4LEFT MIDDLE STROKE,4ATTACHED KASRA,5BOTTOM RIGHT KASRA,5ROUND DOT ABOVE,5RIGHT ROUND DOT",
      "5LEFT ROUND DOT,5ROUND DOT BELOW,4DOT ABOVE,4ATTACHED TOP RIGHT FATHA AND DOT ABOVE",
      "4RIGHT MIDDLE STROKE AND DOT ABOVE,4ATTACHED BOTTOM RIGHT KASRA AND DOT ABOVE",
      "5TOP RIGHT FATHA AND LEFT RING,4RIGHT MIDDLE STROKE AND LEFT RING",
      "4ATTACHED BOTTOM RIGHT KASRA AND LEFT RING,5RIGHT HAMZA,5LEFT HAMZA",
      "1TATWEEL WITH OVERSTRUCK HAMZA,4WAW,3TWO DOTS BELOW,1LETTER THIN YEH,1BASELINE ROUND DOT",
      "1RAISED ROUND DOT,1LETTER NOON WITH INVERTED SMALL V,2HAH WITH INVERTED SMALL V BELOW",
      "2TAH WITH DOT BELOW,4THREE DOTS BELOW,2KEHEH WITH TWO DOTS VERTICALLY BELOW",
      "1VERTICAL TAIL"]⟩,
    ⟨0x890, ["0ARABIC POUND MARK ABOVE,1PIASTRE MARK ABOVE"]⟩,
    ⟨0x898, ["0ARABIC SMALL HIGH WORD AL-JUZ,2LOW WORD ISHMAAM,4IMAALA,4TASHEEL,1MADDA WAAJIB",
      "1SUPERSCRIPT ALEF MOKHASSAS,1DOUBLED MADDA,1HALF MADDA OVER MADDA",
      "1LETTER BEH WITH SMALL V BELOW,4HAMZA ABOVE,2JEEM WITH TWO DOTS ABOVE",
      "2TAH WITH TWO DOTS ABOVE,2FEH WITH DOT BELOW AND THREE DOTS ABOVE,2QAF WITH DOT BELOW",
      "2LAM WITH DOUBLE BAR,2MEEM WITH THREE DOTS ABOVE,2YEH WITH TWO DOTS BELOW AND HAMZA ABOVE",
      "8DOT ABOVE,2REH WITH LOOP,2WAW WITH DOT WITHIN,2ROHINGYA YEH,2LOW ALEF",
      "2DAL WITH THREE DOTS BELOW,2SAD WITH THREE DOTS BELOW,2GAF WITH INVERTED STROKE",
      "2STRAIGHT WAW,2ZAIN WITH INVERTED V ABOVE,2AIN WITH THREE DOTS BELOW,2KAF WITH DOT BELOW",
      "2QAF WITH DOT BELOW AND NO DOTS ABOVE,2BEH WITH SMALL MEEM ABOVE,2PEH WITH SMALL MEEM ABOVE",
      "2TEH WITH SMALL TEH ABOVE,2REH WITH SMALL NOON ABOVE",
      "2YEH WITH TWO DOTS BELOW AND SMALL NOON ABOVE,2AFRICAN FEH,3QAF,3NOON,2PEH WITH SMALL V",
      "2TEH WITH SMALL V,2TTEH WITH SMALL V,2TCHEH WITH SMALL V,2KEHEH WITH SMALL V",
      "2GHAIN WITH THREE DOTS ABOVE,2AFRICAN QAF WITH THREE DOTS ABOVE,2JEEM WITH THREE DOTS ABOVE",
      "6BELOW,2LAM WITH SMALL ARABIC LETTER TAH ABOVE,2GRAF,1SMALL FARSI YEH,2HIGH FARSI YEH",
      "3YEH BARREE WITH TWO DOTS BELOW,3WORD SAH,3ZAH,1LARGE ROUND DOT ABOVE,4BELOW,1SUKUN BELOW",
      "1LARGE CIRCLE BELOW,2ROUND DOT INSIDE CIRCLE BELOW,1SMALL LOW WAW,2HIGH WORD AR-RUB,3SAD",
      "3AIN,3QAF,3NOON WITH KASRA,2LOW NOON WITH KASRA,2HIGH WORD ATH-THALATHA,4AS-SAJDA,4AN-NISF",
      "4SAKTA,4QIF,4WAQFA,3FOOTNOTE MARKER,3SIGN SAFHA,1DISPUTED END OF AYAH,1TURNED DAMMA BELOW",
      "1CURLY FATHA,2DAMMA,2KASRA,2FATHATAN,2DAMMATAN,2KASRATAN,1TONE ONE DOT ABOVE",
      "2TWO DOTS ABOVE,2LOOP ABOVE,2ONE DOT BELOW,2TWO DOTS BELOW,2LOOP BELOW,1OPEN FATHATAN",
      "2DAMMATAN,2KASRATAN,1SMALL HIGH WAW,1FATHA WITH RING,3DOT ABOVE,1KASRA WITH DOT BELOW",
      "1LEFT ARROWHEAD ABOVE,1RIGHT ARROWHEAD ABOVE,1LEFT ARROWHEAD BELOW,1RIGHT ARROWHEAD BELOW",
      "1DOUBLE RIGHT ARROWHEAD ABOVE,5WITH DOT,1RIGHT ARROWHEAD ABOVE WITH DOT,1DAMMA WITH DOT",
      "1MARK SIDEWAYS NOON GHUNNA,0DEVANAGARI SIGN INVERTED CANDRABINDU,2CANDRABINDU,2ANUSVARA",
      "2VISARGA,1LETTER SHORT A,2A,2AA,2I,2II,2U,2UU,2VOCALIC R,3L,2CANDRA E,2SHORT E,2E,2AI",
      "2CANDRA O,2SHORT O,2O,2AU,2KA,2KHA,2GA,2GHA,2NGA,2CA,2CHA,2JA,2JHA,2NYA,2TTA,2TTHA,2DDA",
      "2DDHA,2NNA,2TA,2THA,2DA,2DHA,2NA,2NNNA,2PA,2PHA,2BA,2BHA,2MA,2YA,2RA,2RRA,2LA,2LLA,2LLLA",
      "2VA,2SHA,2SSA,2SA,2HA,1VOWEL SIGN OE,3OOE,1SIGN NUKTA,2AVAGRAHA,1VOWEL SIGN AA,3I,3II,3U",
      "3UU,3VOCALIC R,4RR,3CANDRA E,3SHORT E,3E,3AI,3CANDRA O,3SHORT O,3O,3AU,1SIGN VIRAMA",
      "1VOWEL SIGN PRISHTHAMATRA E,3AW,1OM,1STRESS SIGN UDATTA,3ANUDATTA,1GRAVE ACCENT",
      "1ACUTE ACCENT,1VOWEL SIGN CANDRA LONG E,3UE,3UUE,1LETTER QA,2KHHA,2GHHA,2ZA,2DDDHA,2RHA,2FA",
      "2YYA,2VOCALIC RR,3LL,1VOWEL SIGN VOCALIC L,4LL,1DANDA,1DOUBLE DANDA,1DIGIT ZERO,2ONE,2TWO",
      "2THREE,2FOUR,2FIVE,2SIX,2SEVEN,2EIGHT,2NINE,1ABBREVIATION SIGN,1SIGN HIGH SPACING DOT",
      "1LETTER CANDRA A,2OE,2OOE,2AW,2UE,2UUE,2MARWARI DDA,2ZHA,2HEAVY YA,2GGA,2JJA,2GLOTTAL STOP",
      "2DDDA,2BBA,0BENGALI ANJI,1SIGN CANDRABINDU,2ANUSVARA,2VISARGA"]⟩,
    ⟨0x985, ["0BENGALI LETTER A,2AA,2I,2II,2U,2UU,2VOCALIC R,3L"]⟩,
    ⟨0x98F, ["0BENGALI LETTER E,2AI"]⟩,
    ⟨0x993, ["0BENGALI LETTER O,2AU,2KA,2KHA,2GA,2GHA,2NGA,2CA,2CHA,2JA,2JHA,2NYA,2TTA,2TTHA,2DDA",
      "2DDHA,2NNA,2TA,2THA,2DA,2DHA,2NA"]⟩,
    ⟨0x9AA, ["0BENGALI LETTER PA,2PHA,2BA,2BHA,2MA,2YA,2RA"]⟩,
    ⟨0x9B2, ["0BENGALI LETTER LA"]⟩,
    ⟨0x9B6, ["0BENGALI LETTER SHA,2SSA,2SA,2HA"]⟩,
    ⟨0x9BC, ["0BENGALI SIGN NUKTA,2AVAGRAHA,1VOWEL SIGN AA,3I,3II,3U,3UU,3VOCALIC R,4RR"]⟩,
    ⟨0x9C7, ["0BENGALI VOWEL SIGN E,3AI"]⟩,
    ⟨0x9CB, ["0BENGALI VOWEL SIGN O,3AU,1SIGN VIRAMA,1LETTER KHANDA TA"]⟩,
    ⟨0x9D7, ["0BENGALI AU LENGTH MARK"]⟩,
    ⟨0x9DC, ["0BENGALI LETTER RRA,2RHA"]⟩,
    ⟨0x9DF, ["0BENGALI LETTER YYA,2VOCALIC RR,3LL,1VOWEL SIGN VOCALIC L,4LL"]⟩,
    ⟨0x9E6, ["0BENGALI DIGIT ZERO,2ONE,2TWO,2THREE,2FOUR,2FIVE,2SIX,2SEVEN,2EIGHT,2NINE",
      "1LETTER RA WITH MIDDLE DIAGONAL,4LOWER DIAGONAL,1RUPEE MARK,2SIGN,1CURRENCY NUMERATOR ONE",
      "3TWO,3THREE,3FOUR,3ONE LESS THAN THE DENOMINATOR,2DENOMINATOR SIXTEEN,1ISSHAR,1GANDA MARK",
      "1LETTER VEDIC ANUSVARA,1ABBREVIATION SIGN,1SANDHI MARK"]⟩,
    ⟨0xA01, ["0GURMUKHI SIGN ADAK BINDI,2BINDI,2VISARGA"]⟩,
    ⟨0xA05, ["0GURMUKHI LETTER A,2AA,2I,2II,2U,2UU"]⟩,
    ⟨0xA0F, ["0GURMUKHI LETTER EE,2AI"]⟩,
    ⟨0xA13, ["0GURMUKHI LETTER OO,2AU,2KA,2KHA,2GA,2GHA,2NGA,2CA,2CHA,2JA,2JHA,2NYA,2TTA,2TTHA",
      "2DDA,2DDHA,2NNA,2TA,2THA,2DA,2DHA,2NA"]⟩,
    ⟨0xA2A, ["0GURMUKHI LETTER PA,2PHA,2BA,2BHA,2MA,2YA,2RA"]⟩,
    ⟨0xA32, ["0GURMUKHI LETTER LA,2LLA"]⟩,
    ⟨0xA35, ["0GURMUKHI LETTER VA,2SHA"]⟩,
    ⟨0xA38, ["0GURMUKHI LETTER SA,2HA"]⟩,
    ⟨0xA3C, ["0GURMUKHI SIGN NUKTA"]⟩,
    ⟨0xA3E, ["0GURMUKHI VOWEL SIGN AA,3I,3II,3U,3UU"]⟩,
    ⟨0xA47, ["0GURMUKHI VOWEL SIGN EE,3AI"]⟩,
    ⟨0xA4B, ["0GURMUKHI VOWEL SIGN OO,3AU,1SIGN VIRAMA"]⟩,
    ⟨0xA51, ["0GURMUKHI SIGN UDAAT"]⟩,
    ⟨0xA59, ["0GURMUKHI LETTER KHHA,2GHHA,2ZA,2RRA"]⟩,
    ⟨0xA5E, ["0GURMUKHI LETTER FA"]⟩,
    ⟨0xA66, ["0GURMUKHI DIGIT ZERO,2ONE,2TWO,2THREE,2FOUR,2FIVE,2SIX,2SEVEN,2EIGHT,2NINE,1TIPPI",
      "1ADDAK,1IRI,1URA,1EK ONKAR,1SIGN YAKASH,1ABBREVIATION SIGN"]⟩,
    ⟨0xA81, ["0GUJARATI SIGN CANDRABINDU,2ANUSVARA,2VISARGA"]⟩,
    ⟨0xA85, ["0GUJARATI LETTER A,2AA,2I,2II,2U,2UU,2VOCALIC R,3L,1VOWEL CANDRA E"]⟩,
    ⟨0xA8F, ["0GUJARATI LETTER E,2AI,1VOWEL CANDRA O"]⟩,
    ⟨0xA93, ["0GUJARATI LETTER O,2AU,2KA,2KHA,2GA,2GHA,2NGA,2CA,2CHA,2JA,2JHA,2NYA,2TTA,2TTHA,2DDA",
      "2DDHA,2NNA,2TA,2THA,2DA,2DHA,2NA"]⟩,
    ⟨0xAAA, ["0GUJARATI LETTER PA,2PHA,2BA,2BHA,2MA,2YA,2RA"]⟩,
    ⟨0xAB2, ["0GUJARATI LETTER LA,2LLA"]⟩,
    ⟨0xAB5, ["0GUJARATI LETTER VA,2SHA,2SSA,2SA,2HA"]⟩,
    ⟨0xABC, ["0GUJARATI SIGN NUKTA,2AVAGRAHA,1VOWEL SIGN AA,3I,3II,3U,3UU,3VOCALIC R,4RR",
      "3CANDRA E"]⟩,
    ⟨0xAC7, ["0GUJARATI VOWEL SIGN E,3AI,3CANDRA O"]⟩,
    ⟨0xACB, ["0GUJARATI VOWEL SIGN O,3AU,1SIGN VIRAMA"]⟩,
    ⟨0xAD0, ["0GUJARATI OM"]⟩,
    ⟨0xAE0, ["0GUJARATI LETTER VOCALIC RR,3LL,1VOWEL SIGN VOCALIC L,4LL"]⟩,
    ⟨0xAE6, ["0GUJARATI DIGIT ZERO,2ONE,2TWO,2THREE,2FOUR,2FIVE,2SIX,2SEVEN,2EIGHT,2NINE",
      "1ABBREVIATION SIGN,1RUPEE SIGN"]⟩,
    ⟨0xAF9, ["0GUJARATI LETTER ZHA,1SIGN SUKUN,2SHADDA,2MADDAH,2THREE-DOT NUKTA ABOVE",
      "2CIRCLE NUKTA ABOVE,2TWO-CIRCLE NUKTA ABOVE"]⟩,
    ⟨0xB01, ["0ORIYA SIGN CANDRABINDU,2ANUSVARA,2VISARGA"]⟩,
    ⟨0xB05, ["0ORIYA LETTER A,2AA,2I,2II,2U,2UU,2VOCALIC R,3L"]⟩,
    ⟨0xB0F, ["0ORIYA LETTER E,2AI"]⟩,
    ⟨0xB13, ["0ORIYA LETTER O,2AU,2KA,2KHA,2GA,2GHA,2NGA,2CA,2CHA,2JA,2JHA,2NYA,2TTA,2TTHA,2DDA",
      "2DDHA,2NNA,2TA,2THA,2DA,2DHA,2NA"]⟩,
    ⟨0xB2A, ["0ORIYA LETTER PA,2PHA,2BA,2BHA,2MA,2YA,2RA"]⟩,
    ⟨0xB32, ["0ORIYA LETTER LA,2LLA"]⟩,
    ⟨0xB35, ["0ORIYA LETTER VA,2SHA,2SSA,2SA,2HA"]⟩,
    ⟨0xB3C, ["0ORIYA SIGN NUKTA,2AVAGRAHA,1VOWEL SIGN AA,3I,3II,3U,3UU,3VOCALIC R,4RR"]⟩,
    ⟨0xB47, ["0ORIYA VOWEL SIGN E,3AI"]⟩,
    ⟨0xB4B, ["0ORIYA VOWEL SIGN O,3AU,1SIGN VIRAMA"]⟩,
    ⟨0xB55, ["0ORIYA SIGN OVERLINE,1AI LENGTH MARK,1AU LENGTH MARK"]⟩,
    ⟨0xB5C, ["0ORIYA LETTER RRA,2RHA"]⟩,
    ⟨0xB5F, ["0ORIYA LETTER YYA,2VOCALIC RR,3LL,1VOWEL SIGN VOCALIC L,4LL"]⟩,
    ⟨0xB66, ["0ORIYA DIGIT ZERO,2ONE,2TWO,2THREE,2FOUR,2FIVE,2SIX,2SEVEN,2EIGHT,2NINE,1ISSHAR",
      "1LETTER WA,1FRACTION ONE QUARTER,3HALF,2THREE QUARTERS,2ONE SIXTEENTH,3EIGHTH",
      "2THREE SIXTEENTHS"]⟩,
    ⟨0xB82, ["0TAMIL SIGN ANUSVARA,2VISARGA"]⟩,
    ⟨0xB85, ["0TAMIL LETTER A,2AA,2I,2II,2U,2UU"]⟩,
    ⟨0xB8E, ["0TAMIL LETTER E,2EE,2AI"]⟩,
    ⟨0xB92, ["0TAMIL LETTER O,2OO,2AU,2KA"]⟩,
    ⟨0xB99, ["0TAMIL LETTER NGA,2CA"]⟩,
    ⟨0xB9C, ["0TAMIL LETTER JA"]⟩,
    ⟨0xB9E, ["0TAMIL LETTER NYA,2TTA"]⟩,
    ⟨0xBA3, ["0TAMIL LETTER NNA,2TA"]⟩,
    ⟨0xBA8, ["0TAMIL LETTER NA,2NNNA,2PA"]⟩,
    ⟨0xBAE, ["0TAMIL LETTER MA,2YA,2RA,2RRA,2LA,2LLA,2LLLA,2VA,2SHA,2SSA,2SA,2HA"]⟩,
    ⟨0xBBE, ["0TAMIL VOWEL SIGN AA,3I,3II,3U,3UU"]⟩,
    ⟨0xBC6, ["0TAMIL VOWEL SIGN E,3EE,3AI"]⟩,
    ⟨0xBCA, ["0TAMIL VOWEL SIGN O,3OO,3AU,1SIGN VIRAMA"]⟩,
    ⟨0xBD0, ["0TAMIL OM"]⟩,
    ⟨0xBD7, ["0TAMIL AU LENGTH MARK"]⟩,
    ⟨0xBE6, ["0TAMIL DIGIT ZERO,2ONE,2TWO,2THREE,2FOUR,2FIVE,2SIX,2SEVEN,2EIGHT,2NINE,1NUMBER TEN",
      "2ONE HUNDRED,3THOUSAND,1DAY SIGN,1MONTH SIGN,1YEAR SIGN,1DEBIT SIGN,1CREDIT SIGN",
      "1AS ABOVE SIGN,1RUPEE SIGN,1NUMBER SIGN"]⟩,
    ⟨0xC00, ["0TELUGU SIGN COMBINING CANDRABINDU ABOVE,2CANDRABINDU,2ANUSVARA,2VISARGA",
      "2COMBINING ANUSVARA ABOVE,1LETTER A,2AA,2I,2II,2U,2UU,2VOCALIC R,3L"]⟩,
    ⟨0xC0E, ["0TELUGU LETTER E,2EE,2AI"]⟩,
    ⟨0xC12, ["0TELUGU LETTER O,2OO,2AU,2KA,2KHA,2GA,2GHA,2NGA,2CA,2CHA,2JA,2JHA,2NYA,2TTA,2TTHA",
      "2DDA,2DDHA,2NNA,2TA,2THA,2DA,2DHA,2NA"]⟩,
    ⟨0xC2A, ["0TELUGU LETTER PA,2PHA,2BA,2BHA,2MA,2YA,2RA,2RRA,2LA,2LLA,2LLLA,2VA,2SHA,2SSA,2SA",
      "2HA"]⟩,
    ⟨0xC3C, ["0TELUGU SIGN NUKTA,2AVAGRAHA,1VOWEL SIGN AA,3I,3II,3U,3UU,3VOCALIC R,4RR"]⟩,
    ⟨0xC46, ["0TELUGU VOWEL SIGN E,3EE,3AI"]⟩,
    ⟨0xC4A, ["0TELUGU VOWEL SIGN O,3OO,3AU,1SIGN VIRAMA"]⟩,
    ⟨0xC55, ["0TELUGU LENGTH MARK,1AI LENGTH MARK"]⟩,
    ⟨0xC58, ["0TELUGU LETTER TSA,2DZA,2RRRA"]⟩,
    ⟨0xC5D, ["0TELUGU LETTER NAKAARA POLLU"]⟩,
    ⟨0xC60, ["0TELUGU LETTER VOCALIC RR,3LL,1VOWEL SIGN VOCALIC L,4LL"]⟩,
    ⟨0xC66, ["0TELUGU DIGIT ZERO,2ONE,2TWO,2THREE,2FOUR,2FIVE,2SIX,2SEVEN,2EIGHT,2NINE"]⟩,
    ⟨0xC77, ["0TELUGU SIGN SIDDHAM,1FRACTION DIGIT ZERO FOR ODD POWERS OF FOUR",
      "3ONE FOR ODD POWERS OF FOUR,3TWO FOR ODD POWERS OF FOUR,3THREE FOR ODD POWERS OF FOUR",
      "3ONE FOR EVEN POWERS OF FOUR,3TWO FOR EVEN POWERS OF FOUR,3THREE FOR EVEN POWERS OF FOUR",
      "1SIGN TUUMU,0KANNADA SIGN SPACING CANDRABINDU,2CANDRABINDU,2ANUSVARA,2VISARGA,2SIDDHAM",
      "1LETTER A,2AA,2I,2II,2U,2UU,2VOCALIC R,3L"]⟩,
    ⟨0xC8E, ["0KANNADA LETTER E,2EE,2AI"]⟩,
    ⟨0xC92, ["0KANNADA LETTER O,2OO,2AU,2KA,2KHA,2GA,2GHA,2NGA,2CA,2CHA,2JA,2JHA,2NYA,2TTA,2TTHA",
      "2DDA,2DDHA,2NNA,2TA,2THA,2DA,2DHA,2NA"]⟩,
    ⟨0xCAA, ["0KANNADA LETTER PA,2PHA,2BA,2BHA,2MA,2YA,2RA,2RRA,2LA,2LLA"]⟩,
    ⟨0xCB5, ["0KANNADA LETTER VA,2SHA,2SSA,2SA,2HA"]⟩,
    ⟨0xCBC, ["0KANNADA SIGN NUKTA,2AVAGRAHA,1VOWEL SIGN AA,3I,3II,3U,3UU,3VOCALIC R,4RR"]⟩,
    ⟨0xCC6, ["0KANNADA VOWEL SIGN E,3EE,3AI"]⟩,
    ⟨0xCCA, ["0KANNADA VOWEL SIGN O,3OO,3AU,1SIGN VIRAMA"]⟩,
    ⟨0xCD5, ["0KANNADA LENGTH MARK,1AI LENGTH MARK"]⟩,
    ⟨0xCDD, ["0KANNADA LETTER NAKAARA POLLU,2FA"]⟩,
    ⟨0xCE0, ["0KANNADA LETTER VOCALIC RR,3LL,1VOWEL SIGN VOCALIC L,4LL"]⟩,
    ⟨0xCE6, ["0KANNADA DIGIT ZERO,2ONE,2TWO,2THREE,2FOUR,2FIVE,2SIX,2SEVEN,2EIGHT,2NINE"]⟩,
    ⟨0xCF1, ["0KANNADA SIGN JIHVAMULIYA,2UPADHMANIYA"]⟩,
    ⟨0xD00, ["0MALAYALAM SIGN COMBINING ANUSVARA ABOVE,2CANDRABINDU,2ANUSVARA,2VISARGA",
      "1LETTER VEDIC ANUSVARA,2A,2AA,2I,2II,2U,2UU,2VOCALIC R,3L"]⟩,
    ⟨0xD0E, ["0MALAYALAM LETTER E,2EE,2AI"]⟩,
    ⟨0xD12, ["0MALAYALAM LETTER O,2OO,2AU,2KA,2KHA,2GA,2GHA,2NGA,2CA,2CHA,2JA,2JHA,2NYA,2TTA,2TTHA",
      "2DDA,2DDHA,2NNA,2TA,2THA,2DA,2DHA,2NA,2NNNA,2PA,2PHA,2BA,2BHA,2MA,2YA,2RA,2RRA,2LA,2LLA",
      "2LLLA,2VA,2SHA,2SSA,2SA,2HA,2TTTA,1SIGN VERTICAL BAR VIRAMA,2CIRCULAR VIRAMA,2AVAGRAHA",
      "1VOWEL SIGN AA,3I,3II,3U,3UU,3VOCALIC R,4RR"]⟩,
    ⟨0xD46, ["0MALAYALAM VOWEL SIGN E,3EE,3AI"]⟩,
    ⟨0xD4A, ["0MALAYALAM VOWEL SIGN O,3OO,3AU,1SIGN VIRAMA,1LETTER DOT REPH,1SIGN PARA"]⟩,
    ⟨0xD54, ["0MALAYALAM LETTER CHILLU M,3Y,3LLL,1AU LENGTH MARK",
      "1FRACTION ONE ONE-HUNDRED-AND-SIXTIETH,3FORTIETH,2THREE EIGHTIETHS,2ONE TWENTIETH,3TENTH",
      "2THREE TWENTIETHS,2ONE FIFTH,1LETTER ARCHAIC II,2VOCALIC RR,3LL,1VOWEL SIGN VOCALIC L,4LL"]⟩,
    ⟨0xD66, ["0MALAYALAM DIGIT ZERO,2ONE,2TWO,2THREE,2FOUR,2FIVE,2SIX,2SEVEN,2EIGHT,2NINE",
      "1NUMBER TEN,2ONE HUNDRED,3THOUSAND,1FRACTION ONE QUARTER,3HALF,2THREE QUARTERS",
      "2ONE SIXTEENTH,3EIGHTH,2THREE SIXTEENTHS,1DATE MARK,1LETTER CHILLU NN,3N,3RR,3L,3LL,3K"]⟩,
    ⟨0xD81, ["0SINHALA SIGN CANDRABINDU,2ANUSVARAYA,2VISARGAYA"]⟩,
    ⟨0xD85, ["0SINHALA LETTER AYANNA,2AAYANNA,2AEYANNA,2AEEYANNA,2IYANNA,2IIYANNA,2UYANNA,2UUYANNA",
      "2IRUYANNA,2IRUUYANNA,2ILUYANNA,2ILUUYANNA,2EYANNA,2EEYANNA,2AIYANNA,2OYANNA,2OOYANNA",
      "2AUYANNA"]⟩,
    ⟨0xD9A, ["0SINHALA LETTER ALPAPRAANA KAYANNA,2MAHAAPRAANA KAYANNA,2ALPAPRAANA GAYANNA",
      "2MAHAAPRAANA GAYANNA,2KANTAJA NAASIKYAYA,2SANYAKA GAYANNA,2ALPAPRAANA CAYANNA",
      "2MAHAAPRAANA CAYANNA,2ALPAPRAANA JAYANNA,2MAHAAPRAANA JAYANNA,2TAALUJA NAASIKYAYA",
      "3SANYOOGA NAAKSIKYAYA,2SANYAKA JAYANNA,2ALPAPRAANA TTAYANNA,2MAHAAPRAANA TTAYANNA",
      "2ALPAPRAANA DDAYANNA,2MAHAAPRAANA DDAYANNA,2MUURDHAJA NAYANNA,2SANYAKA DDAYANNA",
      "2ALPAPRAANA TAYANNA,2MAHAAPRAANA TAYANNA,2ALPAPRAANA DAYANNA,2MAHAAPRAANA DAYANNA",
      "2DANTAJA NAYANNA"]⟩,
    ⟨0xDB3, ["0SINHALA LETTER SANYAKA DAYANNA,2ALPAPRAANA PAYANNA,2MAHAAPRAANA PAYANNA",
      "2ALPAPRAANA BAYANNA,2MAHAAPRAANA BAYANNA,2MAYANNA,2AMBA BAYANNA,2YAYANNA,2RAYANNA"]⟩,
    ⟨0xDBD, ["0SINHALA LETTER DANTAJA LAYANNA"]⟩,
    ⟨0xDC0, ["0SINHALA LETTER VAYANNA,2TAALUJA SAYANNA,2MUURDHAJA SAYANNA,2DANTAJA SAYANNA",
      "2HAYANNA,2MUURDHAJA LAYANNA,2FAYANNA"]⟩,
    ⟨0xDCA, ["0SINHALA SIGN AL-LAKUNA"]⟩,
    ⟨0xDCF, ["0SINHALA VOWEL SIGN AELA-PILLA,3KETTI AEDA-PILLA,3DIGA AEDA-PILLA,3KETTI IS-PILLA",
      "3DIGA IS-PILLA,3KETTI PAA-PILLA"]⟩,
    ⟨0xDD6, ["0SINHALA VOWEL SIGN DIGA PAA-PILLA"]⟩,
    ⟨0xDD8, ["0SINHALA VOWEL SIGN GAETTA-PILLA,3KOMBUVA,3DIGA KOMBUVA,3KOMBU DEKA",
      "3KOMBUVA HAA AELA-PILLA,5DIGA AELA-PILLA,5GAYANUKITTA,3GAYANUKITTA"]⟩,
    ⟨0xDE6, ["0SINHALA LITH DIGIT ZERO,3ONE,3TWO,3THREE,3FOUR,3FIVE,3SIX,3SEVEN,3EIGHT,3NINE"]⟩,
    ⟨0xDF2, ["0SINHALA VOWEL SIGN DIGA GAETTA-PILLA,4GAYANUKITTA,1PUNCTUATION KUNDDALIYA"]⟩,
    ⟨0xE01, ["0THAI CHARACTER KO KAI,2KHO KHAI,3KHUAT,3KHWAI,3KHON,3RAKHANG,2NGO NGU,2CHO CHAN",
      "3CHING,3CHANG,2SO SO,2CHO CHOE,2YO YING,2DO CHADA,2TO PATAK,2THO THAN,3NANGMONTHO,3PHUTHAO",
      "2NO NEN,2DO DEK,2TO TAO,2THO THUNG,3THAHAN,3THONG,2NO NU,2BO BAIMAI,2PO PLA,2PHO PHUNG",
      "2FO FA,2PHO PHAN,2FO FAN,2PHO SAMPHAO,2MO MA,2YO YAK,2RO RUA,2RU,2LO LING,2LU,2WO WAEN",
      "2SO SALA,3RUSI,3SUA,2HO HIP,2LO CHULA,2O ANG,2HO NOKHUK,2PAIYANNOI,2SARA A,2MAI HAN-AKAT",
      "2SARA AA,3AM,3I,3II,3UE,3UEE,3U,3UU,2PHINTHU"]⟩,
    ⟨0xE3F, ["0THAI CURRENCY SYMBOL BAHT,1CHARACTER SARA E,3AE,3O,3AI MAIMUAN,4MAIMALAI",
      "2LAKKHANGYAO,2MAIYAMOK,2MAITAIKHU,2MAI EK,3THO,3TRI,3CHATTAWA,2THANTHAKHAT,2NIKHAHIT",
      "2YAMAKKAN,2FONGMAN,1DIGIT ZERO,2ONE,2TWO,2THREE,2FOUR,2FIVE,2SIX,2SEVEN,2EIGHT,2NINE",
      "1CHARACTER ANGKHANKHU,2KHOMUT"]⟩,
    ⟨0xE81, ["0LAO LETTER KO,2KHO SUNG"]⟩,
    ⟨0xE84, ["0LAO LETTER KHO TAM"]⟩,
    ⟨0xE86, ["0LAO LETTER PALI GHA,2NGO,2CO,2PALI CHA,2SO TAM"]⟩,
    ⟨0xE8C, ["0LAO LETTER PALI JHA,2NYO,2PALI NYA,3TTA,3TTHA,3DDA,3DDHA,3NNA,2DO,2TO,2THO SUNG",
      "3TAM,2PALI DHA,2NO,2BO,2PO,2PHO SUNG,2FO TAM,2PHO TAM,2FO SUNG,2PALI BHA,2MO,2YO,2LO LING"]⟩,
    ⟨0xEA5, ["0LAO LETTER LO LOOT"]⟩,
    ⟨0xEA7, ["0LAO LETTER WO,2SANSKRIT SHA,3SSA,2SO SUNG,2HO SUNG,2PALI LLA,2O,2HO TAM,1ELLIPSIS",
      "1VOWEL SIGN A,3MAI KAN,3AA,3AM,3I,3II,3Y,3YY,3U,3UU,1SIGN PALI VIRAMA,1VOWEL SIGN MAI KON",
      "1SEMIVOWEL SIGN LO,3NYO"]⟩,
    ⟨0xEC0, ["0LAO VOWEL SIGN E,3EI,3O,3AY,3AI"]⟩,
    ⟨0xEC6, ["0LAO KO LA"]⟩,
    ⟨0xEC8, ["0LAO TONE MAI EK,3THO,3TI,3CATAWA,1CANCELLATION MARK,1NIGGAHITA"]⟩,
    ⟨0xED0, ["0LAO DIGIT ZERO,2ONE,2TWO,2THREE,2FOUR,2FIVE,2SIX,2SEVEN,2EIGHT,2NINE"]⟩,
    ⟨0xEDC, ["0LAO HO NO,2MO,1LETTER KHMU GO,3NYO"]⟩,
    ⟨0xF00, ["0TIBETAN SYLLABLE OM,1MARK GTER YIG MGO TRUNCATED A,5-UM RNAM BCAD MA,6GTER TSHEG MA",
      "2INITIAL YIG MGO MDUN MA,2CLOSING YIG MGO SGAB MA,2CARET YIG MGO PHUR SHAD MA",
      "2YIG MGO TSHEG SHAD MA,2SBRUL SHAD,2BSKUR YIG MGO,2BKA- SHOG YIG MGO,2INTERSYLLABIC TSHEG",
      "2DELIMITER TSHEG BSTAR,2SHAD,2NYIS SHAD,2TSHEG SHAD,2NYIS TSHEG SHAD,2RIN CHEN SPUNGS SHAD",
      "2RGYA GRAM SHAD,2CARET -DZUD RTAGS ME LONG CAN,2GTER TSHEG,1LOGOTYPE SIGN CHAD RTAGS",
      "3LHAG RTAGS,1ASTROLOGICAL SIGN SGRA GCAN -CHAR RTAGS,3-KHYUD PA,3SDONG TSHUGS",
      "1SIGN RDEL DKAR GCIG,4GNYIS,4GSUM,3NAG GCIG,4GNYIS,3DKAR RDEL NAG,1DIGIT ZERO,2ONE,2TWO",
      "2THREE,2FOUR,2FIVE,2SIX,2SEVEN,2EIGHT,2NINE,2HALF ONE,3TWO,3THREE,3FOUR,3FIVE,3SIX,3SEVEN",
      "3EIGHT,3NINE,3ZERO,1MARK BSDUS RTAGS,2NGAS BZUNG NYI ZLA,2CARET -DZUD RTAGS BZHI MIG CAN",
      "2NGAS BZUNG SGOR RTAGS,2CHE MGO,2TSA -PHRU,2GUG RTAGS GYON,4GYAS,2ANG KHANG GYON,4GYAS",
      "1SIGN YAR TSHES,2MAR TSHES,1LETTER KA,2KHA,2GA,2GHA,2NGA,2CA,2CHA,2JA"]⟩,
    ⟨0xF49, ["0TIBETAN LETTER NYA,2TTA,2TTHA,2DDA,2DDHA,2NNA,2TA,2THA,2DA,2DHA,2NA,2PA,2PHA,2BA",
      "2BHA,2MA,2TSA,2TSHA,2DZA,2DZHA,2WA,2ZHA,2ZA,2-A,2YA,2RA,2LA,2SHA,2SSA,2SA,2HA,2A,2KSSA",
      "2FIXED-FORM RA,2KKA,2RRA"]⟩,
    ⟨0xF71, ["0TIBETAN VOWEL SIGN AA,3I,3II,3U,3UU,3VOCALIC R,4RR,4L,4LL,3E,3EE,3O,3OO",
      "1SIGN RJES SU NGA RO,2RNAM BCAD,1VOWEL SIGN REVERSED I,4II,1SIGN NYI ZLA NAA DA,2SNA LDAN",
      "1MARK HALANTA,2PALUTA,1SIGN LCI RTAGS,2YANG RTAGS,2LCE TSA CAN,2MCHU CAN,2GRU CAN RGYINGS",
      "3MED RGYINGS,2INVERTED MCHU CAN,1SUBJOINED SIGN LCE TSA CAN,3MCHU CAN,3INVERTED MCHU CAN",
      "2LETTER KA,3KHA,3GA,3GHA,3NGA,3CA,3CHA,3JA"]⟩,
    ⟨0xF99, ["0TIBETAN SUBJOINED LETTER NYA,3TTA,3TTHA,3DDA,3DDHA,3NNA,3TA,3THA,3DA,3DHA,3NA,3PA",
      "3PHA,3BA,3BHA,3MA,3TSA,3TSHA,3DZA,3DZHA,3WA,3ZHA,3ZA,3-A,3YA,3RA,3LA,3SHA,3SSA,3SA,3HA,3A",
      "3KSSA,3FIXED-FORM WA,4YA,4RA"]⟩,
    ⟨0xFBE, ["0TIBETAN KU RU KHA,4BZHI MIG CAN,1CANTILLATION SIGN HEAVY BEAT,3LIGHT BEAT",
      "3CANG TE-U,3SBUB -CHAL,1SYMBOL DRIL BU,2RDO RJE,2PADMA GDAN,2RDO RJE RGYA GRAM,2PHUR PA",
      "2NOR BU,4NYIS -KHYIL,4GSUM -KHYIL,4BZHI -KHYIL"]⟩,
    ⟨0xFCE, ["0TIBETAN SIGN RDEL NAG RDEL DKAR,4GSUM,1MARK BSKA- SHOG GI MGO RGYAN",
      "2MNYAM YIG GI MGO RGYAN,2NYIS TSHEG,2INITIAL BRDA RNYING YIG MGO MDUN MA",
      "2CLOSING BRDA RNYING YIG MGO SGAB MA,0RIGHT-FACING SVASTI SIGN,0LEFT-FACING SVASTI SIGN",
      "0RIGHT-FACING SVASTI SIGN WITH DOTS,0LEFT-FACING SVASTI SIGN WITH DOTS",
      "0TIBETAN MARK LEADING MCHAN RTAGS,2TRAILING MCHAN RTAGS"]⟩,
    ⟨0x1000, ["0MYANMAR LETTER KA,2KHA,2GA,2GHA,2NGA,2CA,2CHA,2JA,2JHA,2NYA,2NNYA,2TTA,2TTHA,2DDA",
      "2DDHA,2NNA,2TA,2THA,2DA,2DHA,2NA,2PA,2PHA,2BA,2BHA,2MA,2YA,2RA,2LA,2WA,2SA,2HA,2LLA,2A",
      "2SHAN A,2I,2II,2U,2UU,2E,2MON E,2O,2AU,1VOWEL SIGN TALL AA,3AA,3I,3II,3U,3UU,3E,3AI,3MON II",
      "4O,3E ABOVE,1SIGN ANUSVARA,2DOT BELOW,2VISARGA,2VIRAMA,2ASAT,1CONSONANT SIGN MEDIAL YA,4RA",
      "4WA,4HA,1LETTER GREAT SA,1DIGIT ZERO,2ONE,2TWO,2THREE,2FOUR,2FIVE,2SIX,2SEVEN,2EIGHT,2NINE",
      "1SIGN LITTLE SECTION,2SECTION,1SYMBOL LOCATIVE,2COMPLETED,2AFOREMENTIONED,2GENITIVE",
      "1LETTER SHA,2SSA,2VOCALIC R,3RR,3L,3LL,1VOWEL SIGN VOCALIC R,4RR,4L,4LL,1LETTER MON NGA",
      "3JHA,3BBA,3BBE,1CONSONANT SIGN MON MEDIAL NA,5MA,5LA,1LETTER SGAW KAREN SHA",
      "1VOWEL SIGN SGAW KAREN EU,1TONE MARK SGAW KAREN HATHI,5KE PHO,1LETTER WESTERN PWO KAREN THA",
      "5PWA,1VOWEL SIGN WESTERN PWO KAREN EU,6UE,1SIGN WESTERN PWO KAREN TONE-1,5TONE-2,5TONE-3",
      "5TONE-4,5TONE-5,1LETTER EASTERN PWO KAREN NNA,5YWA,5GHWA,1VOWEL SIGN GEBA KAREN I,3KAYAH OE",
      "4U,4EE,1LETTER SHAN KA,3KHA,3GA,3CA,3ZA,3NYA,3DA,3NA,3PHA,3FA,3BA,3THA,3HA",
      "1CONSONANT SIGN SHAN MEDIAL WA,1VOWEL SIGN SHAN AA,4E,5ABOVE,4FINAL Y,1SIGN SHAN TONE-2",
      "3TONE-3,3TONE-5,3TONE-6,3COUNCIL TONE-2,4TONE-3,4EMPHATIC TONE,1LETTER RUMAI PALAUNG FA",
      "1SIGN RUMAI PALAUNG TONE-5,1SHAN DIGIT ZERO,3ONE,3TWO,3THREE,3FOUR,3FIVE,3SIX,3SEVEN,3EIGHT",
      "3NINE,1SIGN KHAMTI TONE-1,3TONE-3,1VOWEL SIGN AITON A,4AI,1SYMBOL SHAN ONE,3EXCLAMATION",
      "0GEORGIAN CAPITAL LETTER AN,3BAN,3GAN,3DON,3EN,3VIN,3ZEN,3TAN,3IN,3KAN,3LAS,3MAN,3NAR,3ON",
      "3PAR,3ZHAR,3RAE,3SAN,3TAR,3UN,3PHAR,3KHAR,3GHAN,3QAR,3SHIN,3CHIN,3CAN,3JIL,3CIL,3CHAR,3XAN",
      "3JHAN,3HAE,3HE,3HIE,3WE,3HAR,3HOE"]⟩,
    ⟨0x10C7, ["0GEORGIAN CAPITAL LETTER YN"]⟩,
    ⟨0x10CD, ["0GEORGIAN CAPITAL LETTER AEN"]⟩,
    ⟨0x10D0, ["0GEORGIAN LETTER AN,2BAN,2GAN,2DON,2EN,2VIN,2ZEN,2TAN,2IN,2KAN,2LAS,2MAN,2NAR,2ON",
      "2PAR,2ZHAR,2RAE,2SAN,2TAR,2UN,2PHAR,2KHAR,2GHAN,2QAR,2SHIN,2CHIN,2CAN,2JIL,2CIL,2CHAR,2XAN",
      "2JHAN,2HAE,2HE,2HIE,2WE,2HAR,2HOE,2FI,2YN,2ELIFI,2TURNED GAN,2AIN,1PARAGRAPH SEPARATOR",
      "0MODIFIER LETTER GEORGIAN NAR,0GEORGIAN LETTER AEN,2HARD SIGN,2LABIAL SIGN"]⟩
  ]

end RouteMatch.Unicode
