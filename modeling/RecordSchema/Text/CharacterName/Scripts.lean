/-! Names of the characters of living scripts in the first blocks. -/

namespace RecordSchema.Text.CharacterName

def scripts : String := "20;SPACE;EXCLAMATION MARK;QUOTATION MARK;NUMBER SIGN;DOLLAR SIGN;PERCENT SIGN;AMPERSAND;APOSTROPHE
28;LEFT PARENTHESIS;RIGHT PARENTHESIS;ASTERISK;PLUS SIGN;COMMA;HYPHEN-MINUS;FULL STOP;SOLIDUS
30;DIGIT ZERO;aONE;aTWO;aTHREE;aFOUR;aFIVE;aSIX;aSEVEN;aEIGHT;aNINE;COLON;SEMICOLON;LESS-THAN SIGN
3D;EQUALS SIGN;GREATER-THAN SIGN;QUESTION MARK;COMMERCIAL AT;LATIN CAPITAL LETTER A;cB;cC;cD;cE;cF
47;LATIN CAPITAL LETTER G;cH;cI;cJ;cK;cL;cM;cN;cO;cP;cQ;cR;cS;cT;cU;cV;cW;cX;cY;cZ
5B;LEFT SQUARE BRACKET;REVERSE SOLIDUS;RIGHT SQUARE BRACKET;CIRCUMFLEX ACCENT;LOW LINE
60;GRAVE ACCENT;LATIN SMALL LETTER A;cB;cC;cD;cE;cF;cG;cH;cI;cJ;cK;cL;cM;cN;cO;cP;cQ;cR;cS;cT;cU
76;LATIN SMALL LETTER V;cW;cX;cY;cZ;LEFT CURLY BRACKET;VERTICAL LINE;RIGHT CURLY BRACKET;TILDE
A0;NO-BREAK SPACE;INVERTED EXCLAMATION MARK;CENT SIGN;POUND SIGN;CURRENCY SIGN;YEN SIGN;BROKEN BAR
A7;SECTION SIGN;DIAERESIS;COPYRIGHT SIGN;FEMININE ORDINAL INDICATOR
AB;LEFT-POINTING DOUBLE ANGLE QUOTATION MARK;NOT SIGN;SOFT HYPHEN;REGISTERED SIGN;MACRON
B0;DEGREE SIGN;PLUS-MINUS SIGN;SUPERSCRIPT TWO;aTHREE;ACUTE ACCENT;MICRO SIGN;PILCROW SIGN
B7;MIDDLE DOT;CEDILLA;SUPERSCRIPT ONE;MASCULINE ORDINAL INDICATOR
BB;RIGHT-POINTING DOUBLE ANGLE QUOTATION MARK;VULGAR FRACTION ONE QUARTER;cHALF;bTHREE QUARTERS
BF;INVERTED QUESTION MARK;LATIN CAPITAL LETTER A WITH GRAVE;eACUTE;eCIRCUMFLEX;eTILDE;eDIAERESIS
C5;LATIN CAPITAL LETTER A WITH RING ABOVE;cAE;cC WITH CEDILLA;cE WITH GRAVE;eACUTE;eCIRCUMFLEX
CB;LATIN CAPITAL LETTER E WITH DIAERESIS;cI WITH GRAVE;eACUTE;eCIRCUMFLEX;eDIAERESIS;cETH
D1;LATIN CAPITAL LETTER N WITH TILDE;cO WITH GRAVE;eACUTE;eCIRCUMFLEX;eTILDE;eDIAERESIS
D7;MULTIPLICATION SIGN;LATIN CAPITAL LETTER O WITH STROKE;cU WITH GRAVE;eACUTE;eCIRCUMFLEX
DC;LATIN CAPITAL LETTER U WITH DIAERESIS;cY WITH ACUTE;cTHORN;aSMALL LETTER SHARP S;cA WITH GRAVE
E1;LATIN SMALL LETTER A WITH ACUTE;eCIRCUMFLEX;eTILDE;eDIAERESIS;eRING ABOVE;cAE;cC WITH CEDILLA
E8;LATIN SMALL LETTER E WITH GRAVE;eACUTE;eCIRCUMFLEX;eDIAERESIS;cI WITH GRAVE;eACUTE;eCIRCUMFLEX
EF;LATIN SMALL LETTER I WITH DIAERESIS;cETH;cN WITH TILDE;cO WITH GRAVE;eACUTE;eCIRCUMFLEX;eTILDE
F6;LATIN SMALL LETTER O WITH DIAERESIS;DIVISION SIGN;LATIN SMALL LETTER O WITH STROKE
F9;LATIN SMALL LETTER U WITH GRAVE;eACUTE;eCIRCUMFLEX;eDIAERESIS;cY WITH ACUTE;cTHORN
FF;LATIN SMALL LETTER Y WITH DIAERESIS;aCAPITAL LETTER A WITH MACRON;aSMALL LETTER A WITH MACRON
102;LATIN CAPITAL LETTER A WITH BREVE;aSMALL LETTER A WITH BREVE;aCAPITAL LETTER A WITH OGONEK
105;LATIN SMALL LETTER A WITH OGONEK;aCAPITAL LETTER C WITH ACUTE;aSMALL LETTER C WITH ACUTE
108;LATIN CAPITAL LETTER C WITH CIRCUMFLEX;aSMALL LETTER C WITH CIRCUMFLEX
10A;LATIN CAPITAL LETTER C WITH DOT ABOVE;aSMALL LETTER C WITH DOT ABOVE
10C;LATIN CAPITAL LETTER C WITH CARON;aSMALL LETTER C WITH CARON;aCAPITAL LETTER D WITH CARON
10F;LATIN SMALL LETTER D WITH CARON;aCAPITAL LETTER D WITH STROKE;aSMALL LETTER D WITH STROKE
112;LATIN CAPITAL LETTER E WITH MACRON;aSMALL LETTER E WITH MACRON;aCAPITAL LETTER E WITH BREVE
115;LATIN SMALL LETTER E WITH BREVE;aCAPITAL LETTER E WITH DOT ABOVE
117;LATIN SMALL LETTER E WITH DOT ABOVE;aCAPITAL LETTER E WITH OGONEK;aSMALL LETTER E WITH OGONEK
11A;LATIN CAPITAL LETTER E WITH CARON;aSMALL LETTER E WITH CARON;aCAPITAL LETTER G WITH CIRCUMFLEX
11D;LATIN SMALL LETTER G WITH CIRCUMFLEX;aCAPITAL LETTER G WITH BREVE;aSMALL LETTER G WITH BREVE
120;LATIN CAPITAL LETTER G WITH DOT ABOVE;aSMALL LETTER G WITH DOT ABOVE
122;LATIN CAPITAL LETTER G WITH CEDILLA;aSMALL LETTER G WITH CEDILLA
124;LATIN CAPITAL LETTER H WITH CIRCUMFLEX;aSMALL LETTER H WITH CIRCUMFLEX
126;LATIN CAPITAL LETTER H WITH STROKE;aSMALL LETTER H WITH STROKE;aCAPITAL LETTER I WITH TILDE
129;LATIN SMALL LETTER I WITH TILDE;aCAPITAL LETTER I WITH MACRON;aSMALL LETTER I WITH MACRON
12C;LATIN CAPITAL LETTER I WITH BREVE;aSMALL LETTER I WITH BREVE;aCAPITAL LETTER I WITH OGONEK
12F;LATIN SMALL LETTER I WITH OGONEK;aCAPITAL LETTER I WITH DOT ABOVE;aSMALL LETTER DOTLESS I
132;LATIN CAPITAL LIGATURE IJ;aSMALL LIGATURE IJ;aCAPITAL LETTER J WITH CIRCUMFLEX
135;LATIN SMALL LETTER J WITH CIRCUMFLEX;aCAPITAL LETTER K WITH CEDILLA
137;LATIN SMALL LETTER K WITH CEDILLA;cKRA;aCAPITAL LETTER L WITH ACUTE;aSMALL LETTER L WITH ACUTE
13B;LATIN CAPITAL LETTER L WITH CEDILLA;aSMALL LETTER L WITH CEDILLA;aCAPITAL LETTER L WITH CARON
13E;LATIN SMALL LETTER L WITH CARON;aCAPITAL LETTER L WITH MIDDLE DOT
140;LATIN SMALL LETTER L WITH MIDDLE DOT;aCAPITAL LETTER L WITH STROKE;aSMALL LETTER L WITH STROKE
143;LATIN CAPITAL LETTER N WITH ACUTE;aSMALL LETTER N WITH ACUTE;aCAPITAL LETTER N WITH CEDILLA
146;LATIN SMALL LETTER N WITH CEDILLA;aCAPITAL LETTER N WITH CARON;aSMALL LETTER N WITH CARON
149;LATIN SMALL LETTER N PRECEDED BY APOSTROPHE;aCAPITAL LETTER ENG;aSMALL LETTER ENG
14C;LATIN CAPITAL LETTER O WITH MACRON;aSMALL LETTER O WITH MACRON;aCAPITAL LETTER O WITH BREVE
14F;LATIN SMALL LETTER O WITH BREVE;aCAPITAL LETTER O WITH DOUBLE ACUTE
151;LATIN SMALL LETTER O WITH DOUBLE ACUTE;aCAPITAL LIGATURE OE;aSMALL LIGATURE OE
154;LATIN CAPITAL LETTER R WITH ACUTE;aSMALL LETTER R WITH ACUTE;aCAPITAL LETTER R WITH CEDILLA
157;LATIN SMALL LETTER R WITH CEDILLA;aCAPITAL LETTER R WITH CARON;aSMALL LETTER R WITH CARON
15A;LATIN CAPITAL LETTER S WITH ACUTE;aSMALL LETTER S WITH ACUTE;aCAPITAL LETTER S WITH CIRCUMFLEX
15D;LATIN SMALL LETTER S WITH CIRCUMFLEX;aCAPITAL LETTER S WITH CEDILLA
15F;LATIN SMALL LETTER S WITH CEDILLA;aCAPITAL LETTER S WITH CARON;aSMALL LETTER S WITH CARON
162;LATIN CAPITAL LETTER T WITH CEDILLA;aSMALL LETTER T WITH CEDILLA;aCAPITAL LETTER T WITH CARON
165;LATIN SMALL LETTER T WITH CARON;aCAPITAL LETTER T WITH STROKE;aSMALL LETTER T WITH STROKE
168;LATIN CAPITAL LETTER U WITH TILDE;aSMALL LETTER U WITH TILDE;aCAPITAL LETTER U WITH MACRON
16B;LATIN SMALL LETTER U WITH MACRON;aCAPITAL LETTER U WITH BREVE;aSMALL LETTER U WITH BREVE
16E;LATIN CAPITAL LETTER U WITH RING ABOVE;aSMALL LETTER U WITH RING ABOVE
170;LATIN CAPITAL LETTER U WITH DOUBLE ACUTE;aSMALL LETTER U WITH DOUBLE ACUTE
172;LATIN CAPITAL LETTER U WITH OGONEK;aSMALL LETTER U WITH OGONEK
174;LATIN CAPITAL LETTER W WITH CIRCUMFLEX;aSMALL LETTER W WITH CIRCUMFLEX
176;LATIN CAPITAL LETTER Y WITH CIRCUMFLEX;aSMALL LETTER Y WITH CIRCUMFLEX
178;LATIN CAPITAL LETTER Y WITH DIAERESIS;cZ WITH ACUTE;aSMALL LETTER Z WITH ACUTE
17B;LATIN CAPITAL LETTER Z WITH DOT ABOVE;aSMALL LETTER Z WITH DOT ABOVE
17D;LATIN CAPITAL LETTER Z WITH CARON;aSMALL LETTER Z WITH CARON;cLONG S;cB WITH STROKE
181;LATIN CAPITAL LETTER B WITH HOOK;eTOPBAR;aSMALL LETTER B WITH TOPBAR;aCAPITAL LETTER TONE SIX
185;LATIN SMALL LETTER TONE SIX;aCAPITAL LETTER OPEN O;cC WITH HOOK;aSMALL LETTER C WITH HOOK
189;LATIN CAPITAL LETTER AFRICAN D;cD WITH HOOK;eTOPBAR;aSMALL LETTER D WITH TOPBAR;cTURNED DELTA
18E;LATIN CAPITAL LETTER REVERSED E;cSCHWA;cOPEN E;cF WITH HOOK;aSMALL LETTER F WITH HOOK
193;LATIN CAPITAL LETTER G WITH HOOK;cGAMMA;aSMALL LETTER HV;aCAPITAL LETTER IOTA;cI WITH STROKE
198;LATIN CAPITAL LETTER K WITH HOOK;aSMALL LETTER K WITH HOOK;cL WITH BAR;cLAMBDA WITH STROKE
19C;LATIN CAPITAL LETTER TURNED M;cN WITH LEFT HOOK;aSMALL LETTER N WITH LONG RIGHT LEG
19F;LATIN CAPITAL LETTER O WITH MIDDLE TILDE;eHORN;aSMALL LETTER O WITH HORN;aCAPITAL LETTER OI
1A3;LATIN SMALL LETTER OI;aCAPITAL LETTER P WITH HOOK;aSMALL LETTER P WITH HOOK;aLETTER YR
1A7;LATIN CAPITAL LETTER TONE TWO;aSMALL LETTER TONE TWO;aCAPITAL LETTER ESH
1AA;LATIN LETTER REVERSED ESH LOOP;aSMALL LETTER T WITH PALATAL HOOK;aCAPITAL LETTER T WITH HOOK
1AD;LATIN SMALL LETTER T WITH HOOK;aCAPITAL LETTER T WITH RETROFLEX HOOK;cU WITH HORN
1B0;LATIN SMALL LETTER U WITH HORN;aCAPITAL LETTER UPSILON;cV WITH HOOK;cY WITH HOOK
1B4;LATIN SMALL LETTER Y WITH HOOK;aCAPITAL LETTER Z WITH STROKE;aSMALL LETTER Z WITH STROKE
1B7;LATIN CAPITAL LETTER EZH;dREVERSED;aSMALL LETTER EZH REVERSED;dWITH TAIL
1BB;LATIN LETTER TWO WITH STROKE;aCAPITAL LETTER TONE FIVE;aSMALL LETTER TONE FIVE
1BE;LATIN LETTER INVERTED GLOTTAL STOP WITH STROKE;bWYNN;bDENTAL CLICK;bLATERAL CLICK
1C2;LATIN LETTER ALVEOLAR CLICK;bRETROFLEX CLICK;aCAPITAL LETTER DZ WITH CARON
1C5;LATIN CAPITAL LETTER D WITH SMALL LETTER Z WITH CARON;aSMALL LETTER DZ WITH CARON
1C7;LATIN CAPITAL LETTER LJ;cL WITH SMALL LETTER J;aSMALL LETTER LJ;aCAPITAL LETTER NJ
1CB;LATIN CAPITAL LETTER N WITH SMALL LETTER J;aSMALL LETTER NJ;aCAPITAL LETTER A WITH CARON
1CE;LATIN SMALL LETTER A WITH CARON;aCAPITAL LETTER I WITH CARON;aSMALL LETTER I WITH CARON
1D1;LATIN CAPITAL LETTER O WITH CARON;aSMALL LETTER O WITH CARON;aCAPITAL LETTER U WITH CARON
1D4;LATIN SMALL LETTER U WITH CARON;aCAPITAL LETTER U WITH DIAERESIS AND MACRON
1D6;LATIN SMALL LETTER U WITH DIAERESIS AND MACRON;aCAPITAL LETTER U WITH DIAERESIS AND ACUTE
1D8;LATIN SMALL LETTER U WITH DIAERESIS AND ACUTE;aCAPITAL LETTER U WITH DIAERESIS AND CARON
1DA;LATIN SMALL LETTER U WITH DIAERESIS AND CARON;aCAPITAL LETTER U WITH DIAERESIS AND GRAVE
1DC;LATIN SMALL LETTER U WITH DIAERESIS AND GRAVE;cTURNED E
1DE;LATIN CAPITAL LETTER A WITH DIAERESIS AND MACRON;aSMALL LETTER A WITH DIAERESIS AND MACRON
1E0;LATIN CAPITAL LETTER A WITH DOT ABOVE AND MACRON;aSMALL LETTER A WITH DOT ABOVE AND MACRON
1E2;LATIN CAPITAL LETTER AE WITH MACRON;aSMALL LETTER AE WITH MACRON;aCAPITAL LETTER G WITH STROKE
1E5;LATIN SMALL LETTER G WITH STROKE;aCAPITAL LETTER G WITH CARON;aSMALL LETTER G WITH CARON
1E8;LATIN CAPITAL LETTER K WITH CARON;aSMALL LETTER K WITH CARON;aCAPITAL LETTER O WITH OGONEK
1EB;LATIN SMALL LETTER O WITH OGONEK;aCAPITAL LETTER O WITH OGONEK AND MACRON
1ED;LATIN SMALL LETTER O WITH OGONEK AND MACRON;aCAPITAL LETTER EZH WITH CARON
1EF;LATIN SMALL LETTER EZH WITH CARON;cJ WITH CARON;aCAPITAL LETTER DZ;cD WITH SMALL LETTER Z
1F3;LATIN SMALL LETTER DZ;aCAPITAL LETTER G WITH ACUTE;aSMALL LETTER G WITH ACUTE
1F6;LATIN CAPITAL LETTER HWAIR;cWYNN;cN WITH GRAVE;aSMALL LETTER N WITH GRAVE
1FA;LATIN CAPITAL LETTER A WITH RING ABOVE AND ACUTE;aSMALL LETTER A WITH RING ABOVE AND ACUTE
1FC;LATIN CAPITAL LETTER AE WITH ACUTE;aSMALL LETTER AE WITH ACUTE
1FE;LATIN CAPITAL LETTER O WITH STROKE AND ACUTE;aSMALL LETTER O WITH STROKE AND ACUTE
200;LATIN CAPITAL LETTER A WITH DOUBLE GRAVE;aSMALL LETTER A WITH DOUBLE GRAVE
202;LATIN CAPITAL LETTER A WITH INVERTED BREVE;aSMALL LETTER A WITH INVERTED BREVE
204;LATIN CAPITAL LETTER E WITH DOUBLE GRAVE;aSMALL LETTER E WITH DOUBLE GRAVE
206;LATIN CAPITAL LETTER E WITH INVERTED BREVE;aSMALL LETTER E WITH INVERTED BREVE
208;LATIN CAPITAL LETTER I WITH DOUBLE GRAVE;aSMALL LETTER I WITH DOUBLE GRAVE
20A;LATIN CAPITAL LETTER I WITH INVERTED BREVE;aSMALL LETTER I WITH INVERTED BREVE
20C;LATIN CAPITAL LETTER O WITH DOUBLE GRAVE;aSMALL LETTER O WITH DOUBLE GRAVE
20E;LATIN CAPITAL LETTER O WITH INVERTED BREVE;aSMALL LETTER O WITH INVERTED BREVE
210;LATIN CAPITAL LETTER R WITH DOUBLE GRAVE;aSMALL LETTER R WITH DOUBLE GRAVE
212;LATIN CAPITAL LETTER R WITH INVERTED BREVE;aSMALL LETTER R WITH INVERTED BREVE
214;LATIN CAPITAL LETTER U WITH DOUBLE GRAVE;aSMALL LETTER U WITH DOUBLE GRAVE
216;LATIN CAPITAL LETTER U WITH INVERTED BREVE;aSMALL LETTER U WITH INVERTED BREVE
218;LATIN CAPITAL LETTER S WITH COMMA BELOW;aSMALL LETTER S WITH COMMA BELOW
21A;LATIN CAPITAL LETTER T WITH COMMA BELOW;aSMALL LETTER T WITH COMMA BELOW;aCAPITAL LETTER YOGH
21D;LATIN SMALL LETTER YOGH;aCAPITAL LETTER H WITH CARON;aSMALL LETTER H WITH CARON
220;LATIN CAPITAL LETTER N WITH LONG RIGHT LEG;aSMALL LETTER D WITH CURL;aCAPITAL LETTER OU
223;LATIN SMALL LETTER OU;aCAPITAL LETTER Z WITH HOOK;aSMALL LETTER Z WITH HOOK
226;LATIN CAPITAL LETTER A WITH DOT ABOVE;aSMALL LETTER A WITH DOT ABOVE
228;LATIN CAPITAL LETTER E WITH CEDILLA;aSMALL LETTER E WITH CEDILLA
22A;LATIN CAPITAL LETTER O WITH DIAERESIS AND MACRON;aSMALL LETTER O WITH DIAERESIS AND MACRON
22C;LATIN CAPITAL LETTER O WITH TILDE AND MACRON;aSMALL LETTER O WITH TILDE AND MACRON
22E;LATIN CAPITAL LETTER O WITH DOT ABOVE;aSMALL LETTER O WITH DOT ABOVE
230;LATIN CAPITAL LETTER O WITH DOT ABOVE AND MACRON;aSMALL LETTER O WITH DOT ABOVE AND MACRON
232;LATIN CAPITAL LETTER Y WITH MACRON;aSMALL LETTER Y WITH MACRON;cL WITH CURL;cN WITH CURL
236;LATIN SMALL LETTER T WITH CURL;cDOTLESS J;cDB DIGRAPH;cQP DIGRAPH
23A;LATIN CAPITAL LETTER A WITH STROKE;cC WITH STROKE;aSMALL LETTER C WITH STROKE
23D;LATIN CAPITAL LETTER L WITH BAR;cT WITH DIAGONAL STROKE;aSMALL LETTER S WITH SWASH TAIL
240;LATIN SMALL LETTER Z WITH SWASH TAIL;aCAPITAL LETTER GLOTTAL STOP;aSMALL LETTER GLOTTAL STOP
243;LATIN CAPITAL LETTER B WITH STROKE;cU BAR;cTURNED V;cE WITH STROKE;aSMALL LETTER E WITH STROKE
248;LATIN CAPITAL LETTER J WITH STROKE;aSMALL LETTER J WITH STROKE
24A;LATIN CAPITAL LETTER SMALL Q WITH HOOK TAIL;aSMALL LETTER Q WITH HOOK TAIL
24C;LATIN CAPITAL LETTER R WITH STROKE;aSMALL LETTER R WITH STROKE;aCAPITAL LETTER Y WITH STROKE
24F;LATIN SMALL LETTER Y WITH STROKE;cTURNED A;cALPHA;cTURNED ALPHA;cB WITH HOOK;cOPEN O
255;LATIN SMALL LETTER C WITH CURL;cD WITH TAIL;eHOOK;cREVERSED E;cSCHWA;dWITH HOOK;cOPEN E
25C;LATIN SMALL LETTER REVERSED OPEN E;fWITH HOOK;cCLOSED REVERSED OPEN E;cDOTLESS J WITH STROKE
260;LATIN SMALL LETTER G WITH HOOK;cSCRIPT G;aLETTER SMALL CAPITAL G;aSMALL LETTER GAMMA
264;LATIN SMALL LETTER RAMS HORN;cTURNED H;cH WITH HOOK;cHENG WITH HOOK;cI WITH STROKE;cIOTA
26A;LATIN LETTER SMALL CAPITAL I;aSMALL LETTER L WITH MIDDLE TILDE;eBELT;eRETROFLEX HOOK;cLEZH
26F;LATIN SMALL LETTER TURNED M;eWITH LONG LEG;cM WITH HOOK;cN WITH LEFT HOOK;eRETROFLEX HOOK
274;LATIN LETTER SMALL CAPITAL N;aSMALL LETTER BARRED O;aLETTER SMALL CAPITAL OE
277;LATIN SMALL LETTER CLOSED OMEGA;cPHI;cTURNED R;eWITH LONG LEG;fHOOK;cR WITH LONG LEG;eTAIL
27E;LATIN SMALL LETTER R WITH FISHHOOK;cREVERSED R WITH FISHHOOK;aLETTER SMALL CAPITAL R
281;LATIN LETTER SMALL CAPITAL INVERTED R;aSMALL LETTER S WITH HOOK;cESH
284;LATIN SMALL LETTER DOTLESS J WITH STROKE AND HOOK;cSQUAT REVERSED ESH;cESH WITH CURL;cTURNED T
288;LATIN SMALL LETTER T WITH RETROFLEX HOOK;cU BAR;cUPSILON;cV WITH HOOK;cTURNED V;dW;dY
28F;LATIN LETTER SMALL CAPITAL Y;aSMALL LETTER Z WITH RETROFLEX HOOK;eCURL;cEZH;dWITH CURL
294;LATIN LETTER GLOTTAL STOP;bPHARYNGEAL VOICED FRICATIVE;bINVERTED GLOTTAL STOP;bSTRETCHED C
298;LATIN LETTER BILABIAL CLICK;bSMALL CAPITAL B;aSMALL LETTER CLOSED OPEN E
29B;LATIN LETTER SMALL CAPITAL G WITH HOOK;dH;aSMALL LETTER J WITH CROSSED-TAIL;cTURNED K
29F;LATIN LETTER SMALL CAPITAL L;aSMALL LETTER Q WITH HOOK;aLETTER GLOTTAL STOP WITH STROKE
2A2;LATIN LETTER REVERSED GLOTTAL STOP WITH STROKE;aSMALL LETTER DZ DIGRAPH;cDEZH DIGRAPH
2A5;LATIN SMALL LETTER DZ DIGRAPH WITH CURL;cTS DIGRAPH;cTESH DIGRAPH;cTC DIGRAPH WITH CURL
2A9;LATIN SMALL LETTER FENG DIGRAPH;cLS DIGRAPH;cLZ DIGRAPH;aLETTER BILABIAL PERCUSSIVE
2AD;LATIN LETTER BIDENTAL PERCUSSIVE;aSMALL LETTER TURNED H WITH FISHHOOK;gAND TAIL
2B0;MODIFIER LETTER SMALL H;dWITH HOOK;cJ;cR;cTURNED R;eWITH HOOK;cCAPITAL INVERTED R;cW;cY;bPRIME
2BA;MODIFIER LETTER DOUBLE PRIME;bTURNED COMMA;bAPOSTROPHE;bREVERSED COMMA;bRIGHT HALF RING
2BF;MODIFIER LETTER LEFT HALF RING;bGLOTTAL STOP;bREVERSED GLOTTAL STOP;bLEFT ARROWHEAD
2C3;MODIFIER LETTER RIGHT ARROWHEAD;bUP ARROWHEAD;bDOWN ARROWHEAD;bCIRCUMFLEX ACCENT;CARON
2C8;MODIFIER LETTER VERTICAL LINE;bMACRON;bACUTE ACCENT;bGRAVE ACCENT;bLOW VERTICAL LINE;cMACRON
2CE;MODIFIER LETTER LOW GRAVE ACCENT;cACUTE ACCENT;bTRIANGULAR COLON;bHALF TRIANGULAR COLON
2D2;MODIFIER LETTER CENTRED RIGHT HALF RING;cLEFT HALF RING;bUP TACK;bDOWN TACK;bPLUS SIGN
2D7;MODIFIER LETTER MINUS SIGN;BREVE;DOT ABOVE;RING ABOVE;OGONEK;SMALL TILDE;DOUBLE ACUTE ACCENT
2DE;MODIFIER LETTER RHOTIC HOOK;bCROSS ACCENT;bSMALL GAMMA;cL;cS;cX;cREVERSED GLOTTAL STOP
2E5;MODIFIER LETTER EXTRA-HIGH TONE BAR;bHIGH TONE BAR;bMID TONE BAR;bLOW TONE BAR
2E9;MODIFIER LETTER EXTRA-LOW TONE BAR;bYIN DEPARTING TONE MARK;bYANG DEPARTING TONE MARK;bVOICING
2ED;MODIFIER LETTER UNASPIRATED;bDOUBLE APOSTROPHE;bLOW DOWN ARROWHEAD;cUP ARROWHEAD
2F1;MODIFIER LETTER LOW LEFT ARROWHEAD;cRIGHT ARROWHEAD;cRING;bMIDDLE GRAVE ACCENT
2F5;MODIFIER LETTER MIDDLE DOUBLE GRAVE ACCENT;dACUTE ACCENT;bLOW TILDE;bRAISED COLON
2F9;MODIFIER LETTER BEGIN HIGH TONE;bEND HIGH TONE;bBEGIN LOW TONE;bEND LOW TONE;bSHELF
2FE;MODIFIER LETTER OPEN SHELF;bLOW LEFT ARROW;COMBINING GRAVE ACCENT;aACUTE ACCENT
302;COMBINING CIRCUMFLEX ACCENT;aTILDE;aMACRON;aOVERLINE;aBREVE;aDOT ABOVE;aDIAERESIS;aHOOK ABOVE
30A;COMBINING RING ABOVE;aDOUBLE ACUTE ACCENT;aCARON;aVERTICAL LINE ABOVE
30E;COMBINING DOUBLE VERTICAL LINE ABOVE;bGRAVE ACCENT;aCANDRABINDU;aINVERTED BREVE
312;COMBINING TURNED COMMA ABOVE;aCOMMA ABOVE;aREVERSED COMMA ABOVE;aCOMMA ABOVE RIGHT
316;COMBINING GRAVE ACCENT BELOW;aACUTE ACCENT BELOW;aLEFT TACK BELOW;aRIGHT TACK BELOW
31A;COMBINING LEFT ANGLE ABOVE;aHORN;aLEFT HALF RING BELOW;aUP TACK BELOW;aDOWN TACK BELOW
31F;COMBINING PLUS SIGN BELOW;aMINUS SIGN BELOW;aPALATALIZED HOOK BELOW;aRETROFLEX HOOK BELOW
323;COMBINING DOT BELOW;aDIAERESIS BELOW;aRING BELOW;aCOMMA BELOW;aCEDILLA;aOGONEK
329;COMBINING VERTICAL LINE BELOW;aBRIDGE BELOW;aINVERTED DOUBLE ARCH BELOW;aCARON BELOW
32D;COMBINING CIRCUMFLEX ACCENT BELOW;aBREVE BELOW;aINVERTED BREVE BELOW;aTILDE BELOW
331;COMBINING MACRON BELOW;aLOW LINE;aDOUBLE LOW LINE;aTILDE OVERLAY;aSHORT STROKE OVERLAY
336;COMBINING LONG STROKE OVERLAY;aSHORT SOLIDUS OVERLAY;aLONG SOLIDUS OVERLAY
339;COMBINING RIGHT HALF RING BELOW;aINVERTED BRIDGE BELOW;aSQUARE BELOW;aSEAGULL BELOW;aX ABOVE
33E;COMBINING VERTICAL TILDE;aDOUBLE OVERLINE;aGRAVE TONE MARK;aACUTE TONE MARK;aGREEK PERISPOMENI
343;COMBINING GREEK KORONIS;bDIALYTIKA TONOS;bYPOGEGRAMMENI;aBRIDGE ABOVE;aEQUALS SIGN BELOW
348;COMBINING DOUBLE VERTICAL LINE BELOW;aLEFT ANGLE BELOW;aNOT TILDE ABOVE;aHOMOTHETIC ABOVE
34C;COMBINING ALMOST EQUAL TO ABOVE;aLEFT RIGHT ARROW BELOW;aUPWARDS ARROW BELOW;aGRAPHEME JOINER
350;COMBINING RIGHT ARROWHEAD ABOVE;aLEFT HALF RING ABOVE;aFERMATA;aX BELOW;aLEFT ARROWHEAD BELOW
355;COMBINING RIGHT ARROWHEAD BELOW;cAND UP ARROWHEAD BELOW;bHALF RING ABOVE;aDOT ABOVE RIGHT
359;COMBINING ASTERISK BELOW;aDOUBLE RING BELOW;aZIGZAG ABOVE;aDOUBLE BREVE BELOW;bBREVE;bMACRON
35F;COMBINING DOUBLE MACRON BELOW;bTILDE;bINVERTED BREVE;bRIGHTWARDS ARROW BELOW
363;COMBINING LATIN SMALL LETTER A;dE;dI;dO;dU;dC;dD;dH;dM;dR;dT;dV;dX;GREEK CAPITAL LETTER HETA
371;GREEK SMALL LETTER HETA;aCAPITAL LETTER ARCHAIC SAMPI;aSMALL LETTER ARCHAIC SAMPI
374;GREEK NUMERAL SIGN;aLOWER NUMERAL SIGN;aCAPITAL LETTER PAMPHYLIAN DIGAMMA
377;GREEK SMALL LETTER PAMPHYLIAN DIGAMMA
37A;GREEK YPOGEGRAMMENI;aSMALL REVERSED LUNATE SIGMA SYMBOL;bDOTTED LUNATE SIGMA SYMBOL
37D;GREEK SMALL REVERSED DOTTED LUNATE SIGMA SYMBOL;aQUESTION MARK;aCAPITAL LETTER YOT
384;GREEK TONOS;aDIALYTIKA TONOS;aCAPITAL LETTER ALPHA WITH TONOS;aANO TELEIA
388;GREEK CAPITAL LETTER EPSILON WITH TONOS;cETA WITH TONOS;cIOTA WITH TONOS
38C;GREEK CAPITAL LETTER OMICRON WITH TONOS
38E;GREEK CAPITAL LETTER UPSILON WITH TONOS;cOMEGA WITH TONOS
390;GREEK SMALL LETTER IOTA WITH DIALYTIKA AND TONOS;aCAPITAL LETTER ALPHA;cBETA;cGAMMA;cDELTA
395;GREEK CAPITAL LETTER EPSILON;cZETA;cETA;cTHETA;cIOTA;cKAPPA;cLAMDA;cMU;cNU;cXI;cOMICRON;cPI
3A1;GREEK CAPITAL LETTER RHO
3A3;GREEK CAPITAL LETTER SIGMA;cTAU;cUPSILON;cPHI;cCHI;cPSI;cOMEGA;cIOTA WITH DIALYTIKA
3AB;GREEK CAPITAL LETTER UPSILON WITH DIALYTIKA;aSMALL LETTER ALPHA WITH TONOS;cEPSILON WITH TONOS
3AE;GREEK SMALL LETTER ETA WITH TONOS;cIOTA WITH TONOS;cUPSILON WITH DIALYTIKA AND TONOS;cALPHA
3B2;GREEK SMALL LETTER BETA;cGAMMA;cDELTA;cEPSILON;cZETA;cETA;cTHETA;cIOTA;cKAPPA;cLAMDA;cMU;cNU
3BE;GREEK SMALL LETTER XI;cOMICRON;cPI;cRHO;cFINAL SIGMA;cSIGMA;cTAU;cUPSILON;cPHI;cCHI;cPSI
3C9;GREEK SMALL LETTER OMEGA;cIOTA WITH DIALYTIKA;cUPSILON WITH DIALYTIKA;cOMICRON WITH TONOS
3CD;GREEK SMALL LETTER UPSILON WITH TONOS;cOMEGA WITH TONOS;aCAPITAL KAI SYMBOL;aBETA SYMBOL
3D1;GREEK THETA SYMBOL;aUPSILON WITH HOOK SYMBOL;cACUTE AND HOOK SYMBOL;cDIAERESIS AND HOOK SYMBOL
3D5;GREEK PHI SYMBOL;aPI SYMBOL;aKAI SYMBOL;aLETTER ARCHAIC KOPPA;aSMALL LETTER ARCHAIC KOPPA
3DA;GREEK LETTER STIGMA;aSMALL LETTER STIGMA;aLETTER DIGAMMA;aSMALL LETTER DIGAMMA;aLETTER KOPPA
3DF;GREEK SMALL LETTER KOPPA;aLETTER SAMPI;aSMALL LETTER SAMPI;COPTIC CAPITAL LETTER SHEI
3E3;COPTIC SMALL LETTER SHEI;aCAPITAL LETTER FEI;aSMALL LETTER FEI;aCAPITAL LETTER KHEI
3E7;COPTIC SMALL LETTER KHEI;aCAPITAL LETTER HORI;aSMALL LETTER HORI;aCAPITAL LETTER GANGIA
3EB;COPTIC SMALL LETTER GANGIA;aCAPITAL LETTER SHIMA;aSMALL LETTER SHIMA;aCAPITAL LETTER DEI
3EF;COPTIC SMALL LETTER DEI;GREEK KAPPA SYMBOL;aRHO SYMBOL;aLUNATE SIGMA SYMBOL;aLETTER YOT
3F4;GREEK CAPITAL THETA SYMBOL;aLUNATE EPSILON SYMBOL;aREVERSED LUNATE EPSILON SYMBOL
3F7;GREEK CAPITAL LETTER SHO;aSMALL LETTER SHO;aCAPITAL LUNATE SIGMA SYMBOL;bLETTER SAN
3FB;GREEK SMALL LETTER SAN;aRHO WITH STROKE SYMBOL;aCAPITAL REVERSED LUNATE SIGMA SYMBOL
3FE;GREEK CAPITAL DOTTED LUNATE SIGMA SYMBOL;bREVERSED DOTTED LUNATE SIGMA SYMBOL
400;CYRILLIC CAPITAL LETTER IE WITH GRAVE;cIO;cDJE;cGJE;cUKRAINIAN IE;cDZE
406;CYRILLIC CAPITAL LETTER BYELORUSSIAN-UKRAINIAN I;cYI;cJE;cLJE;cNJE;cTSHE;cKJE;cI WITH GRAVE
40E;CYRILLIC CAPITAL LETTER SHORT U;cDZHE;cA;cBE;cVE;cGHE;cDE;cIE;cZHE;cZE;cI;cSHORT I;cKA;cEL;cEM
41D;CYRILLIC CAPITAL LETTER EN;cO;cPE;cER;cES;cTE;cU;cEF;cHA;cTSE;cCHE;cSHA;cSHCHA;cHARD SIGN
42B;CYRILLIC CAPITAL LETTER YERU;cSOFT SIGN;cE;cYU;cYA;aSMALL LETTER A;cBE;cVE;cGHE;cDE;cIE;cZHE
437;CYRILLIC SMALL LETTER ZE;cI;cSHORT I;cKA;cEL;cEM;cEN;cO;cPE;cER;cES;cTE;cU;cEF;cHA;cTSE;cCHE
448;CYRILLIC SMALL LETTER SHA;cSHCHA;cHARD SIGN;cYERU;cSOFT SIGN;cE;cYU;cYA;cIE WITH GRAVE;cIO
452;CYRILLIC SMALL LETTER DJE;cGJE;cUKRAINIAN IE;cDZE;cBYELORUSSIAN-UKRAINIAN I;cYI;cJE;cLJE;cNJE
45B;CYRILLIC SMALL LETTER TSHE;cKJE;cI WITH GRAVE;cSHORT U;cDZHE;aCAPITAL LETTER OMEGA
461;CYRILLIC SMALL LETTER OMEGA;aCAPITAL LETTER YAT;aSMALL LETTER YAT;aCAPITAL LETTER IOTIFIED E
465;CYRILLIC SMALL LETTER IOTIFIED E;aCAPITAL LETTER LITTLE YUS;aSMALL LETTER LITTLE YUS
468;CYRILLIC CAPITAL LETTER IOTIFIED LITTLE YUS;aSMALL LETTER IOTIFIED LITTLE YUS
46A;CYRILLIC CAPITAL LETTER BIG YUS;aSMALL LETTER BIG YUS;aCAPITAL LETTER IOTIFIED BIG YUS
46D;CYRILLIC SMALL LETTER IOTIFIED BIG YUS;aCAPITAL LETTER KSI;aSMALL LETTER KSI
470;CYRILLIC CAPITAL LETTER PSI;aSMALL LETTER PSI;aCAPITAL LETTER FITA;aSMALL LETTER FITA
474;CYRILLIC CAPITAL LETTER IZHITSA;aSMALL LETTER IZHITSA
476;CYRILLIC CAPITAL LETTER IZHITSA WITH DOUBLE GRAVE ACCENT
477;CYRILLIC SMALL LETTER IZHITSA WITH DOUBLE GRAVE ACCENT;aCAPITAL LETTER UK;aSMALL LETTER UK
47A;CYRILLIC CAPITAL LETTER ROUND OMEGA;aSMALL LETTER ROUND OMEGA;aCAPITAL LETTER OMEGA WITH TITLO
47D;CYRILLIC SMALL LETTER OMEGA WITH TITLO;aCAPITAL LETTER OT;aSMALL LETTER OT
480;CYRILLIC CAPITAL LETTER KOPPA;aSMALL LETTER KOPPA;aTHOUSANDS SIGN;COMBINING CYRILLIC TITLO
484;COMBINING CYRILLIC PALATALIZATION;bDASIA PNEUMATA;bPSILI PNEUMATA;bPOKRYTIE
488;COMBINING CYRILLIC HUNDRED THOUSANDS SIGN;bMILLIONS SIGN
48A;CYRILLIC CAPITAL LETTER SHORT I WITH TAIL;aSMALL LETTER SHORT I WITH TAIL
48C;CYRILLIC CAPITAL LETTER SEMISOFT SIGN;aSMALL LETTER SEMISOFT SIGN;aCAPITAL LETTER ER WITH TICK
48F;CYRILLIC SMALL LETTER ER WITH TICK;aCAPITAL LETTER GHE WITH UPTURN
491;CYRILLIC SMALL LETTER GHE WITH UPTURN;aCAPITAL LETTER GHE WITH STROKE
493;CYRILLIC SMALL LETTER GHE WITH STROKE;aCAPITAL LETTER GHE WITH MIDDLE HOOK
495;CYRILLIC SMALL LETTER GHE WITH MIDDLE HOOK;aCAPITAL LETTER ZHE WITH DESCENDER
497;CYRILLIC SMALL LETTER ZHE WITH DESCENDER;aCAPITAL LETTER ZE WITH DESCENDER
499;CYRILLIC SMALL LETTER ZE WITH DESCENDER;aCAPITAL LETTER KA WITH DESCENDER
49B;CYRILLIC SMALL LETTER KA WITH DESCENDER;aCAPITAL LETTER KA WITH VERTICAL STROKE
49D;CYRILLIC SMALL LETTER KA WITH VERTICAL STROKE;aCAPITAL LETTER KA WITH STROKE
49F;CYRILLIC SMALL LETTER KA WITH STROKE;aCAPITAL LETTER BASHKIR KA;aSMALL LETTER BASHKIR KA
4A2;CYRILLIC CAPITAL LETTER EN WITH DESCENDER;aSMALL LETTER EN WITH DESCENDER
4A4;CYRILLIC CAPITAL LIGATURE EN GHE;aSMALL LIGATURE EN GHE;aCAPITAL LETTER PE WITH MIDDLE HOOK
4A7;CYRILLIC SMALL LETTER PE WITH MIDDLE HOOK;aCAPITAL LETTER ABKHASIAN HA
4A9;CYRILLIC SMALL LETTER ABKHASIAN HA;aCAPITAL LETTER ES WITH DESCENDER
4AB;CYRILLIC SMALL LETTER ES WITH DESCENDER;aCAPITAL LETTER TE WITH DESCENDER
4AD;CYRILLIC SMALL LETTER TE WITH DESCENDER;aCAPITAL LETTER STRAIGHT U;aSMALL LETTER STRAIGHT U
4B0;CYRILLIC CAPITAL LETTER STRAIGHT U WITH STROKE;aSMALL LETTER STRAIGHT U WITH STROKE
4B2;CYRILLIC CAPITAL LETTER HA WITH DESCENDER;aSMALL LETTER HA WITH DESCENDER
4B4;CYRILLIC CAPITAL LIGATURE TE TSE;aSMALL LIGATURE TE TSE;aCAPITAL LETTER CHE WITH DESCENDER
4B7;CYRILLIC SMALL LETTER CHE WITH DESCENDER;aCAPITAL LETTER CHE WITH VERTICAL STROKE
4B9;CYRILLIC SMALL LETTER CHE WITH VERTICAL STROKE;aCAPITAL LETTER SHHA;aSMALL LETTER SHHA
4BC;CYRILLIC CAPITAL LETTER ABKHASIAN CHE;aSMALL LETTER ABKHASIAN CHE
4BE;CYRILLIC CAPITAL LETTER ABKHASIAN CHE WITH DESCENDER
4BF;CYRILLIC SMALL LETTER ABKHASIAN CHE WITH DESCENDER;aLETTER PALOCHKA
4C1;CYRILLIC CAPITAL LETTER ZHE WITH BREVE;aSMALL LETTER ZHE WITH BREVE
4C3;CYRILLIC CAPITAL LETTER KA WITH HOOK;aSMALL LETTER KA WITH HOOK;aCAPITAL LETTER EL WITH TAIL
4C6;CYRILLIC SMALL LETTER EL WITH TAIL;aCAPITAL LETTER EN WITH HOOK;aSMALL LETTER EN WITH HOOK
4C9;CYRILLIC CAPITAL LETTER EN WITH TAIL;aSMALL LETTER EN WITH TAIL;aCAPITAL LETTER KHAKASSIAN CHE
4CC;CYRILLIC SMALL LETTER KHAKASSIAN CHE;aCAPITAL LETTER EM WITH TAIL;aSMALL LETTER EM WITH TAIL
4CF;CYRILLIC SMALL LETTER PALOCHKA;aCAPITAL LETTER A WITH BREVE;aSMALL LETTER A WITH BREVE
4D2;CYRILLIC CAPITAL LETTER A WITH DIAERESIS;aSMALL LETTER A WITH DIAERESIS;aCAPITAL LIGATURE A IE
4D5;CYRILLIC SMALL LIGATURE A IE;aCAPITAL LETTER IE WITH BREVE;aSMALL LETTER IE WITH BREVE
4D8;CYRILLIC CAPITAL LETTER SCHWA;aSMALL LETTER SCHWA;aCAPITAL LETTER SCHWA WITH DIAERESIS
4DB;CYRILLIC SMALL LETTER SCHWA WITH DIAERESIS;aCAPITAL LETTER ZHE WITH DIAERESIS
4DD;CYRILLIC SMALL LETTER ZHE WITH DIAERESIS;aCAPITAL LETTER ZE WITH DIAERESIS
4DF;CYRILLIC SMALL LETTER ZE WITH DIAERESIS;aCAPITAL LETTER ABKHASIAN DZE
4E1;CYRILLIC SMALL LETTER ABKHASIAN DZE;aCAPITAL LETTER I WITH MACRON;aSMALL LETTER I WITH MACRON
4E4;CYRILLIC CAPITAL LETTER I WITH DIAERESIS;aSMALL LETTER I WITH DIAERESIS
4E6;CYRILLIC CAPITAL LETTER O WITH DIAERESIS;aSMALL LETTER O WITH DIAERESIS
4E8;CYRILLIC CAPITAL LETTER BARRED O;aSMALL LETTER BARRED O
4EA;CYRILLIC CAPITAL LETTER BARRED O WITH DIAERESIS;aSMALL LETTER BARRED O WITH DIAERESIS
4EC;CYRILLIC CAPITAL LETTER E WITH DIAERESIS;aSMALL LETTER E WITH DIAERESIS
4EE;CYRILLIC CAPITAL LETTER U WITH MACRON;aSMALL LETTER U WITH MACRON
4F0;CYRILLIC CAPITAL LETTER U WITH DIAERESIS;aSMALL LETTER U WITH DIAERESIS
4F2;CYRILLIC CAPITAL LETTER U WITH DOUBLE ACUTE;aSMALL LETTER U WITH DOUBLE ACUTE
4F4;CYRILLIC CAPITAL LETTER CHE WITH DIAERESIS;aSMALL LETTER CHE WITH DIAERESIS
4F6;CYRILLIC CAPITAL LETTER GHE WITH DESCENDER;aSMALL LETTER GHE WITH DESCENDER
4F8;CYRILLIC CAPITAL LETTER YERU WITH DIAERESIS;aSMALL LETTER YERU WITH DIAERESIS
4FA;CYRILLIC CAPITAL LETTER GHE WITH STROKE AND HOOK;aSMALL LETTER GHE WITH STROKE AND HOOK
4FC;CYRILLIC CAPITAL LETTER HA WITH HOOK;aSMALL LETTER HA WITH HOOK;aCAPITAL LETTER HA WITH STROKE
4FF;CYRILLIC SMALL LETTER HA WITH STROKE;aCAPITAL LETTER KOMI DE;aSMALL LETTER KOMI DE
502;CYRILLIC CAPITAL LETTER KOMI DJE;aSMALL LETTER KOMI DJE;aCAPITAL LETTER KOMI ZJE
505;CYRILLIC SMALL LETTER KOMI ZJE;aCAPITAL LETTER KOMI DZJE;aSMALL LETTER KOMI DZJE
508;CYRILLIC CAPITAL LETTER KOMI LJE;aSMALL LETTER KOMI LJE;aCAPITAL LETTER KOMI NJE
50B;CYRILLIC SMALL LETTER KOMI NJE;aCAPITAL LETTER KOMI SJE;aSMALL LETTER KOMI SJE
50E;CYRILLIC CAPITAL LETTER KOMI TJE;aSMALL LETTER KOMI TJE;aCAPITAL LETTER REVERSED ZE
511;CYRILLIC SMALL LETTER REVERSED ZE;aCAPITAL LETTER EL WITH HOOK;aSMALL LETTER EL WITH HOOK
514;CYRILLIC CAPITAL LETTER LHA;aSMALL LETTER LHA;aCAPITAL LETTER RHA;aSMALL LETTER RHA
518;CYRILLIC CAPITAL LETTER YAE;aSMALL LETTER YAE;aCAPITAL LETTER QA;aSMALL LETTER QA
51C;CYRILLIC CAPITAL LETTER WE;aSMALL LETTER WE;aCAPITAL LETTER ALEUT KA;aSMALL LETTER ALEUT KA
520;CYRILLIC CAPITAL LETTER EL WITH MIDDLE HOOK;aSMALL LETTER EL WITH MIDDLE HOOK
522;CYRILLIC CAPITAL LETTER EN WITH MIDDLE HOOK;aSMALL LETTER EN WITH MIDDLE HOOK
524;CYRILLIC CAPITAL LETTER PE WITH DESCENDER;aSMALL LETTER PE WITH DESCENDER
526;CYRILLIC CAPITAL LETTER SHHA WITH DESCENDER;aSMALL LETTER SHHA WITH DESCENDER
528;CYRILLIC CAPITAL LETTER EN WITH LEFT HOOK;aSMALL LETTER EN WITH LEFT HOOK
52A;CYRILLIC CAPITAL LETTER DZZHE;aSMALL LETTER DZZHE;aCAPITAL LETTER DCHE;aSMALL LETTER DCHE
52E;CYRILLIC CAPITAL LETTER EL WITH DESCENDER;aSMALL LETTER EL WITH DESCENDER
531;ARMENIAN CAPITAL LETTER AYB;cBEN;cGIM;cDA;cECH;cZA;cEH;cET;cTO;cZHE;cINI;cLIWN;cXEH;cCA;cKEN
540;ARMENIAN CAPITAL LETTER HO;cJA;cGHAD;cCHEH;cMEN;cYI;cNOW;cSHA;cVO;cCHA;cPEH;cJHEH;cRA;cSEH
54E;ARMENIAN CAPITAL LETTER VEW;cTIWN;cREH;cCO;cYIWN;cPIWR;cKEH;cOH;cFEH
559;ARMENIAN MODIFIER LETTER LEFT HALF RING;aAPOSTROPHE;aEMPHASIS MARK;aEXCLAMATION MARK;aCOMMA
55E;ARMENIAN QUESTION MARK;aABBREVIATION MARK;aSMALL LETTER TURNED AYB;cAYB;cBEN;cGIM;cDA;cECH;cZA
567;ARMENIAN SMALL LETTER EH;cET;cTO;cZHE;cINI;cLIWN;cXEH;cCA;cKEN;cHO;cJA;cGHAD;cCHEH;cMEN;cYI
576;ARMENIAN SMALL LETTER NOW;cSHA;cVO;cCHA;cPEH;cJHEH;cRA;cSEH;cVEW;cTIWN;cREH;cCO;cYIWN;cPIWR
584;ARMENIAN SMALL LETTER KEH;cOH;cFEH;bLIGATURE ECH YIWN;bLETTER YI WITH STROKE;aFULL STOP
58A;ARMENIAN HYPHEN
58D;RIGHT-FACING ARMENIAN ETERNITY SIGN;LEFT-FACING ARMENIAN ETERNITY SIGN;ARMENIAN DRAM SIGN
591;HEBREW ACCENT ETNAHTA;bSEGOL;bSHALSHELET;bZAQEF QATAN;cGADOL;bTIPEHA;bREVIA;bZARQA;bPASHTA
59A;HEBREW ACCENT YETIV;bTEVIR;bGERESH;cMUQDAM;bGERSHAYIM;bQARNEY PARA;bTELISHA GEDOLA;bPAZER
5A2;HEBREW ACCENT ATNAH HAFUKH;bMUNAH;bMAHAPAKH;bMERKHA;cKEFULA;bDARGA;bQADMA;bTELISHA QETANA
5AA;HEBREW ACCENT YERAH BEN YOMO;bOLE;bILUY;bDEHI;bZINOR;aMARK MASORA CIRCLE;aPOINT SHEVA
5B1;HEBREW POINT HATAF SEGOL;cPATAH;cQAMATS;bHIRIQ;bTSERE;bSEGOL;bPATAH;bQAMATS;bHOLAM
5BA;HEBREW POINT HOLAM HASER FOR VAV;bQUBUTS;bDAGESH OR MAPIQ;bMETEG;aPUNCTUATION MAQAF
5BF;HEBREW POINT RAFE;aPUNCTUATION PASEQ;aPOINT SHIN DOT;bSIN DOT;aPUNCTUATION SOF PASUQ
5C4;HEBREW MARK UPPER DOT;bLOWER DOT;aPUNCTUATION NUN HAFUKHA;aPOINT QAMATS QATAN
5D0;HEBREW LETTER ALEF;bBET;bGIMEL;bDALET;bHE;bVAV;bZAYIN;bHET;bTET;bYOD;bFINAL KAF;bKAF;bLAMED
5DD;HEBREW LETTER FINAL MEM;bMEM;bFINAL NUN;bNUN;bSAMEKH;bAYIN;bFINAL PE;bPE;bFINAL TSADI;bTSADI
5E7;HEBREW LETTER QOF;bRESH;bSHIN;bTAV
5EF;HEBREW YOD TRIANGLE;aLIGATURE YIDDISH DOUBLE VAV;cVAV YOD;cDOUBLE YOD;aPUNCTUATION GERESH
5F4;HEBREW PUNCTUATION GERSHAYIM
600;ARABIC NUMBER SIGN;aSIGN SANAH;aFOOTNOTE MARKER;aSIGN SAFHA;bSAMVAT;aNUMBER MARK ABOVE
606;ARABIC-INDIC CUBE ROOT;aFOURTH ROOT;ARABIC RAY;ARABIC-INDIC PER MILLE SIGN;bTEN THOUSAND SIGN
60B;AFGHANI SIGN;ARABIC COMMA;aDATE SEPARATOR;aPOETIC VERSE SIGN;aSIGN MISRA
610;ARABIC SIGN SALLALLAHOU ALAYHE WASSALLAM;bALAYHE ASSALLAM;bRAHMATULLAH ALAYHE
613;ARABIC SIGN RADI ALLAHOU ANHU;bTAKHALLUS;aSMALL HIGH TAH;cLIGATURE ALEF WITH LAM WITH YEH
617;ARABIC SMALL HIGH ZAIN;bFATHA;bDAMMA;bKASRA;aSEMICOLON;aLETTER MARK;aEND OF TEXT MARK
61E;ARABIC TRIPLE DOT PUNCTUATION MARK;aQUESTION MARK;aLETTER KASHMIRI YEH;bHAMZA
622;ARABIC LETTER ALEF WITH MADDA ABOVE;dHAMZA ABOVE;bWAW WITH HAMZA ABOVE;bALEF WITH HAMZA BELOW
626;ARABIC LETTER YEH WITH HAMZA ABOVE;bALEF;bBEH;bTEH MARBUTA;bTEH;bTHEH;bJEEM;bHAH;bKHAH;bDAL
630;ARABIC LETTER THAL;bREH;bZAIN;bSEEN;bSHEEN;bSAD;bDAD;bTAH;bZAH;bAIN;bGHAIN
63B;ARABIC LETTER KEHEH WITH TWO DOTS ABOVE;dTHREE DOTS BELOW;bFARSI YEH WITH INVERTED V
63E;ARABIC LETTER FARSI YEH WITH TWO DOTS ABOVE;eTHREE DOTS ABOVE;aTATWEEL;aLETTER FEH;bQAF;bKAF
644;ARABIC LETTER LAM;bMEEM;bNOON;bHEH;bWAW;bALEF MAKSURA;bYEH;aFATHATAN;aDAMMATAN;aKASRATAN
64E;ARABIC FATHA;aDAMMA;aKASRA;aSHADDA;aSUKUN;aMADDAH ABOVE;aHAMZA ABOVE;bBELOW;aSUBSCRIPT ALEF
657;ARABIC INVERTED DAMMA;aMARK NOON GHUNNA;aZWARAKAY;aVOWEL SIGN SMALL V ABOVE
65B;ARABIC VOWEL SIGN INVERTED SMALL V ABOVE;cDOT BELOW;aREVERSED DAMMA;aFATHA WITH TWO DOTS
65F;ARABIC WAVY HAMZA BELOW;ARABIC-INDIC DIGIT ZERO;bONE;bTWO;bTHREE;bFOUR;bFIVE;bSIX;bSEVEN
668;ARABIC-INDIC DIGIT EIGHT;bNINE;ARABIC PERCENT SIGN;aDECIMAL SEPARATOR;aTHOUSANDS SEPARATOR
66D;ARABIC FIVE POINTED STAR;aLETTER DOTLESS BEH;cQAF;bSUPERSCRIPT ALEF;bALEF WASLA
672;ARABIC LETTER ALEF WITH WAVY HAMZA ABOVE;fBELOW;bHIGH HAMZA;dALEF;dWAW;bU WITH HAMZA ABOVE
678;ARABIC LETTER HIGH HAMZA YEH;bTTEH;bTTEHEH;bBEEH;bTEH WITH RING;dTHREE DOTS ABOVE DOWNWARDS
67E;ARABIC LETTER PEH;bTEHEH;bBEHEH;bHAH WITH HAMZA ABOVE;dTWO DOTS VERTICAL ABOVE;bNYEH;bDYEH
685;ARABIC LETTER HAH WITH THREE DOTS ABOVE;bTCHEH;bTCHEHEH;bDDAL;bDAL WITH RING;dDOT BELOW
68B;ARABIC LETTER DAL WITH DOT BELOW AND SMALL TAH;bDAHAL;bDDAHAL;bDUL
68F;ARABIC LETTER DAL WITH THREE DOTS ABOVE DOWNWARDS;dFOUR DOTS ABOVE;bRREH;bREH WITH SMALL V
693;ARABIC LETTER REH WITH RING;dDOT BELOW;dSMALL V BELOW;dDOT BELOW AND DOT ABOVE;dTWO DOTS ABOVE
698;ARABIC LETTER JEH;bREH WITH FOUR DOTS ABOVE;bSEEN WITH DOT BELOW AND DOT ABOVE
69B;ARABIC LETTER SEEN WITH THREE DOTS BELOW;gAND THREE DOTS ABOVE;bSAD WITH TWO DOTS BELOW
69E;ARABIC LETTER SAD WITH THREE DOTS ABOVE;bTAH WITH THREE DOTS ABOVE;bAIN WITH THREE DOTS ABOVE
6A1;ARABIC LETTER DOTLESS FEH;bFEH WITH DOT MOVED BELOW;eBELOW;bVEH;bFEH WITH THREE DOTS BELOW
6A6;ARABIC LETTER PEHEH;bQAF WITH DOT ABOVE;dTHREE DOTS ABOVE;bKEHEH;bSWASH KAF;bKAF WITH RING
6AC;ARABIC LETTER KAF WITH DOT ABOVE;bNG;bKAF WITH THREE DOTS BELOW;bGAF;cWITH RING;bNGOEH
6B2;ARABIC LETTER GAF WITH TWO DOTS BELOW;bGUEH;bGAF WITH THREE DOTS ABOVE;bLAM WITH SMALL V
6B6;ARABIC LETTER LAM WITH DOT ABOVE;dTHREE DOTS ABOVE;fBELOW;bNOON WITH DOT BELOW;cGHUNNA;bRNOON
6BC;ARABIC LETTER NOON WITH RING;dTHREE DOTS ABOVE;bHEH DOACHASHMEE;bTCHEH WITH DOT ABOVE
6C0;ARABIC LETTER HEH WITH YEH ABOVE;cGOAL;dWITH HAMZA ABOVE;bTEH MARBUTA GOAL;bWAW WITH RING
6C5;ARABIC LETTER KIRGHIZ OE;bOE;bU;bYU;bKIRGHIZ YU;bWAW WITH TWO DOTS ABOVE;bVE;bFARSI YEH
6CD;ARABIC LETTER YEH WITH TAIL;dSMALL V;bWAW WITH DOT ABOVE;bE;bYEH WITH THREE DOTS BELOW;cBARREE
6D3;ARABIC LETTER YEH BARREE WITH HAMZA ABOVE;aFULL STOP;aLETTER AE
6D6;ARABIC SMALL HIGH LIGATURE SAD WITH LAM WITH ALEF MAKSURA;dQAF WITH LAM WITH ALEF MAKSURA
6D8;ARABIC SMALL HIGH MEEM INITIAL FORM;cLAM ALEF;cJEEM;cTHREE DOTS;cSEEN;aEND OF AYAH
6DE;ARABIC START OF RUB EL HIZB;aSMALL HIGH ROUNDED ZERO;cUPRIGHT RECTANGULAR ZERO
6E1;ARABIC SMALL HIGH DOTLESS HEAD OF KHAH;cMEEM ISOLATED FORM;bLOW SEEN;bHIGH MADDA;bWAW;bYEH
6E7;ARABIC SMALL HIGH YEH;cNOON;aPLACE OF SAJDAH;aEMPTY CENTRE LOW STOP;cHIGH STOP
6EC;ARABIC ROUNDED HIGH STOP WITH FILLED CENTRE;aSMALL LOW MEEM;aLETTER DAL WITH INVERTED V
6EF;ARABIC LETTER REH WITH INVERTED V;EXTENDED ARABIC-INDIC DIGIT ZERO;cONE;cTWO;cTHREE;cFOUR
6F5;EXTENDED ARABIC-INDIC DIGIT FIVE;cSIX;cSEVEN;cEIGHT;cNINE;ARABIC LETTER SHEEN WITH DOT BELOW
6FB;ARABIC LETTER DAD WITH DOT BELOW;bGHAIN WITH DOT BELOW;aSIGN SINDHI AMPERSAND
6FE;ARABIC SIGN SINDHI POSTPOSITION MEN;aLETTER HEH WITH INVERTED V;SYRIAC END OF PARAGRAPH
701;SYRIAC SUPRALINEAR FULL STOP;aSUBLINEAR FULL STOP;aSUPRALINEAR COLON;aSUBLINEAR COLON
705;SYRIAC HORIZONTAL COLON;aCOLON SKEWED LEFT;cRIGHT;aSUPRALINEAR COLON SKEWED LEFT
709;SYRIAC SUBLINEAR COLON SKEWED RIGHT;aCONTRACTION;aHARKLEAN OBELUS;bMETOBELUS;bASTERISCUS
70F;SYRIAC ABBREVIATION MARK;aLETTER ALAPH;bSUPERSCRIPT ALAPH;bBETH;bGAMAL;cGARSHUNI;bDALATH
716;SYRIAC LETTER DOTLESS DALATH RISH;bHE;bWAW;bZAIN;bHETH;bTETH;cGARSHUNI;bYUDH;cHE;bKAPH;bLAMADH
721;SYRIAC LETTER MIM;bNUN;bSEMKATH;bFINAL SEMKATH;bE;bPE;bREVERSED PE;bSADHE;bQAPH;bRISH;bSHIN
72C;SYRIAC LETTER TAW;bPERSIAN BHETH;cGHAMAL;cDHALATH;aPTHAHA ABOVE;bBELOW;bDOTTED;aZQAPHA ABOVE
734;SYRIAC ZQAPHA BELOW;bDOTTED;aRBASA ABOVE;bBELOW;aDOTTED ZLAMA HORIZONTAL;cANGULAR;aHBASA ABOVE
73B;SYRIAC HBASA BELOW;aHBASA-ESASA DOTTED;aESASA ABOVE;bBELOW;aRWAHA;aFEMININE DOT;aQUSHSHAYA
742;SYRIAC RUKKAKHA;aTWO VERTICAL DOTS ABOVE;dBELOW;aTHREE DOTS ABOVE;cBELOW;aOBLIQUE LINE ABOVE
748;SYRIAC OBLIQUE LINE BELOW;aMUSIC;aBARREKH
74D;SYRIAC LETTER SOGDIAN ZHAIN;cKHAPH;cFE;ARABIC LETTER BEH WITH THREE DOTS HORIZONTALLY BELOW
751;ARABIC LETTER BEH WITH DOT BELOW AND THREE DOTS ABOVE;dTHREE DOTS POINTING UPWARDS BELOW
753;ARABIC LETTER BEH WITH THREE DOTS POINTING UPWARDS BELOW AND TWO DOTS ABOVE
754;ARABIC LETTER BEH WITH TWO DOTS BELOW AND DOT ABOVE;dINVERTED SMALL V BELOW;dSMALL V
757;ARABIC LETTER HAH WITH TWO DOTS ABOVE;dTHREE DOTS POINTING UPWARDS BELOW
759;ARABIC LETTER DAL WITH TWO DOTS VERTICALLY BELOW AND SMALL TAH;dINVERTED SMALL V BELOW
75B;ARABIC LETTER REH WITH STROKE;bSEEN WITH FOUR DOTS ABOVE;bAIN WITH TWO DOTS ABOVE
75E;ARABIC LETTER AIN WITH THREE DOTS POINTING DOWNWARDS ABOVE;dTWO DOTS VERTICALLY ABOVE
760;ARABIC LETTER FEH WITH TWO DOTS BELOW;dTHREE DOTS POINTING UPWARDS BELOW;bKEHEH WITH DOT ABOVE
763;ARABIC LETTER KEHEH WITH THREE DOTS ABOVE;fPOINTING UPWARDS BELOW;bMEEM WITH DOT ABOVE;eBELOW
767;ARABIC LETTER NOON WITH TWO DOTS BELOW;dSMALL TAH;eV;bLAM WITH BAR
76B;ARABIC LETTER REH WITH TWO DOTS VERTICALLY ABOVE;dHAMZA ABOVE
76D;ARABIC LETTER SEEN WITH TWO DOTS VERTICALLY ABOVE;bHAH WITH SMALL ARABIC LETTER TAH BELOW
76F;ARABIC LETTER HAH WITH SMALL ARABIC LETTER TAH AND TWO DOTS
770;ARABIC LETTER SEEN WITH SMALL ARABIC LETTER TAH AND TWO DOTS
771;ARABIC LETTER REH WITH SMALL ARABIC LETTER TAH AND TWO DOTS
772;ARABIC LETTER HAH WITH SMALL ARABIC LETTER TAH ABOVE
773;ARABIC LETTER ALEF WITH EXTENDED ARABIC-INDIC DIGIT TWO ABOVE;gTHREE ABOVE
775;ARABIC LETTER FARSI YEH WITH EXTENDED ARABIC-INDIC DIGIT TWO ABOVE;hTHREE ABOVE;hFOUR BELOW
778;ARABIC LETTER WAW WITH EXTENDED ARABIC-INDIC DIGIT TWO ABOVE;gTHREE ABOVE
77A;ARABIC LETTER YEH BARREE WITH EXTENDED ARABIC-INDIC DIGIT TWO ABOVE;hTHREE ABOVE
77C;ARABIC LETTER HAH WITH EXTENDED ARABIC-INDIC DIGIT FOUR BELOW
77D;ARABIC LETTER SEEN WITH EXTENDED ARABIC-INDIC DIGIT FOUR ABOVE;dINVERTED V
77F;ARABIC LETTER KAF WITH TWO DOTS ABOVE;THAANA LETTER HAA;bSHAVIYANI;bNOONU;bRAA;bBAA;bLHAVIYANI
786;THAANA LETTER KAAFU;bALIFU;bVAAVU;bMEEMU;bFAAFU;bDHAALU;bTHAA;bLAAMU;bGAAFU;bGNAVIYANI;bSEENU
791;THAANA LETTER DAVIYANI;bZAVIYANI;bTAVIYANI;bYAA;bPAVIYANI;bJAVIYANI;bCHAVIYANI;bTTAA;bHHAA
79A;THAANA LETTER KHAA;bTHAALU;bZAA;bSHEENU;bSAADHU;bDAADHU;bTO;bZO;bAINU;bGHAINU;bQAAFU;bWAAVU
7A6;THAANA ABAFILI;aAABAAFILI;aIBIFILI;aEEBEEFILI;aUBUFILI;aOOBOOFILI;aEBEFILI;aEYBEYFILI;aOBOFILI
7AF;THAANA OABOAFILI;aSUKUN;aLETTER NAA
7C0;NKO DIGIT ZERO;bONE;bTWO;bTHREE;bFOUR;bFIVE;bSIX;bSEVEN;bEIGHT;bNINE;aLETTER A;bEE;bI;bE;bU
7CF;NKO LETTER OO;bO;bDAGBASINNA;bN;bBA;bPA;bTA;bJA;bCHA;bDA;bRA;bRRA;bSA;bGBA;bFA;bKA;bLA
7E0;NKO LETTER NA WOLOSO;bMA;bNYA;bNA;bHA;bWA;bYA;bNYA WOLOSO;bJONA JA;cCHA;cRA
7EB;NKO COMBINING SHORT HIGH TONE;cLOW TONE;cRISING TONE;bLONG DESCENDING TONE;cHIGH TONE
7F0;NKO COMBINING LONG LOW TONE;cRISING TONE;bNASALIZATION MARK;bDOUBLE DOT ABOVE
7F4;NKO HIGH TONE APOSTROPHE;aLOW TONE APOSTROPHE;aSYMBOL OO DENNEN;bGBAKURUNEN;aCOMMA
7F9;NKO EXCLAMATION MARK;aLAJANYALAN
7FD;NKO DANTAYALAN;aDOROME SIGN;aTAMAN SIGN;SAMARITAN LETTER ALAF;bBIT;bGAMAN;bDALAT;bIY;bBAA;bZEN
807;SAMARITAN LETTER IT;bTIT;bYUT;bKAAF;bLABAT;bMIM;bNUN;bSINGAAT;bIN;bFI;bTSAADIY;bQUF;bRISH
814;SAMARITAN LETTER SHAN;bTAAF;aMARK IN;bIN-ALAF;bOCCLUSION;bDAGESH
81A;SAMARITAN MODIFIER LETTER EPENTHETIC YUT;aMARK EPENTHETIC YUT;aVOWEL SIGN LONG E;cE
81E;SAMARITAN VOWEL SIGN OVERLONG AA;cLONG AA;cAA;cOVERLONG A;cLONG A;cA;aMODIFIER LETTER SHORT A
825;SAMARITAN VOWEL SIGN SHORT A;cLONG U;cU;aMODIFIER LETTER I;aVOWEL SIGN LONG I;cI;cO;cSUKUN
82D;SAMARITAN MARK NEQUDAA
830;SAMARITAN PUNCTUATION NEQUDAA;bAFSAAQ;bANGED;bBAU;bATMAAU;bSHIYYAALAA;aABBREVIATION MARK
837;SAMARITAN PUNCTUATION MELODIC QITSA;bZIQAA;bQITSA;bZAEF;bTURU;bARKAANU;bSOF MASHFAAT;bANNAAU
840;MANDAIC LETTER HALQA;bAB;bAG;bAD;bAH;bUSHENNA;bAZ;bIT;bATT;bAKSA;bAK;bAL;bAM;bAN;bAS;bIN;bAP
851;MANDAIC LETTER ASZ;bAQ;bAR;bASH;bAT;bDUSHENNA;bKAD;bAIN;aAFFRICATION MARK;aVOCALIZATION MARK
85B;MANDAIC GEMINATION MARK
85E;MANDAIC PUNCTUATION
860;SYRIAC LETTER MALAYALAM NGA;cJA;cNYA;cTTA;cNNA;cNNNA;cBHA;cRA;cLLA;cLLLA;cSSA
870;ARABIC LETTER ALEF WITH ATTACHED FATHA;eTOP RIGHT FATHA;dRIGHT MIDDLE STROKE
873;ARABIC LETTER ALEF WITH LEFT MIDDLE STROKE;dATTACHED KASRA;eBOTTOM RIGHT KASRA
876;ARABIC LETTER ALEF WITH ATTACHED ROUND DOT ABOVE;eRIGHT ROUND DOT;eLEFT ROUND DOT
879;ARABIC LETTER ALEF WITH ATTACHED ROUND DOT BELOW;dDOT ABOVE
87B;ARABIC LETTER ALEF WITH ATTACHED TOP RIGHT FATHA AND DOT ABOVE
87C;ARABIC LETTER ALEF WITH RIGHT MIDDLE STROKE AND DOT ABOVE
87D;ARABIC LETTER ALEF WITH ATTACHED BOTTOM RIGHT KASRA AND DOT ABOVE
87E;ARABIC LETTER ALEF WITH ATTACHED TOP RIGHT FATHA AND LEFT RING
87F;ARABIC LETTER ALEF WITH RIGHT MIDDLE STROKE AND LEFT RING
880;ARABIC LETTER ALEF WITH ATTACHED BOTTOM RIGHT KASRA AND LEFT RING;eRIGHT HAMZA;eLEFT HAMZA
883;ARABIC TATWEEL WITH OVERSTRUCK HAMZA;dWAW;cTWO DOTS BELOW;aLETTER THIN YEH;aBASELINE ROUND DOT
888;ARABIC RAISED ROUND DOT;aLETTER NOON WITH INVERTED SMALL V;bHAH WITH INVERTED SMALL V BELOW
88B;ARABIC LETTER TAH WITH DOT BELOW;dTHREE DOTS BELOW;bKEHEH WITH TWO DOTS VERTICALLY BELOW
88E;ARABIC VERTICAL TAIL
890;ARABIC POUND MARK ABOVE;aPIASTRE MARK ABOVE
898;ARABIC SMALL HIGH WORD AL-JUZ;bLOW WORD ISHMAAM;dIMAALA;dTASHEEL;aMADDA WAAJIB
89D;ARABIC SUPERSCRIPT ALEF MOKHASSAS;aDOUBLED MADDA;aHALF MADDA OVER MADDA
8A0;ARABIC LETTER BEH WITH SMALL V BELOW;dHAMZA ABOVE;bJEEM WITH TWO DOTS ABOVE
8A3;ARABIC LETTER TAH WITH TWO DOTS ABOVE;bFEH WITH DOT BELOW AND THREE DOTS ABOVE
8A5;ARABIC LETTER QAF WITH DOT BELOW;bLAM WITH DOUBLE BAR;bMEEM WITH THREE DOTS ABOVE
8A8;ARABIC LETTER YEH WITH TWO DOTS BELOW AND HAMZA ABOVE;hDOT ABOVE;bREH WITH LOOP
8AB;ARABIC LETTER WAW WITH DOT WITHIN;bROHINGYA YEH;bLOW ALEF;bDAL WITH THREE DOTS BELOW
8AF;ARABIC LETTER SAD WITH THREE DOTS BELOW;bGAF WITH INVERTED STROKE;bSTRAIGHT WAW
8B2;ARABIC LETTER ZAIN WITH INVERTED V ABOVE;bAIN WITH THREE DOTS BELOW;bKAF WITH DOT BELOW
8B5;ARABIC LETTER QAF WITH DOT BELOW AND NO DOTS ABOVE;bBEH WITH SMALL MEEM ABOVE
8B7;ARABIC LETTER PEH WITH SMALL MEEM ABOVE;bTEH WITH SMALL TEH ABOVE;bREH WITH SMALL NOON ABOVE
8BA;ARABIC LETTER YEH WITH TWO DOTS BELOW AND SMALL NOON ABOVE;bAFRICAN FEH;cQAF;cNOON
8BE;ARABIC LETTER PEH WITH SMALL V;bTEH WITH SMALL V;bTTEH WITH SMALL V;bTCHEH WITH SMALL V
8C2;ARABIC LETTER KEHEH WITH SMALL V;bGHAIN WITH THREE DOTS ABOVE
8C4;ARABIC LETTER AFRICAN QAF WITH THREE DOTS ABOVE;bJEEM WITH THREE DOTS ABOVE;fBELOW
8C7;ARABIC LETTER LAM WITH SMALL ARABIC LETTER TAH ABOVE;bGRAF;aSMALL FARSI YEH;bHIGH FARSI YEH
8CB;ARABIC SMALL HIGH YEH BARREE WITH TWO DOTS BELOW;cWORD SAH;cZAH;aLARGE ROUND DOT ABOVE;dBELOW
8D0;ARABIC SUKUN BELOW;aLARGE CIRCLE BELOW;bROUND DOT INSIDE CIRCLE BELOW;aSMALL LOW WAW
8D4;ARABIC SMALL HIGH WORD AR-RUB;cSAD;cAIN;cQAF;cNOON WITH KASRA;bLOW NOON WITH KASRA
8DA;ARABIC SMALL HIGH WORD ATH-THALATHA;dAS-SAJDA;dAN-NISF;dSAKTA;dQIF;dWAQFA;cFOOTNOTE MARKER
8E1;ARABIC SMALL HIGH SIGN SAFHA;aDISPUTED END OF AYAH;aTURNED DAMMA BELOW;aCURLY FATHA;bDAMMA
8E6;ARABIC CURLY KASRA;bFATHATAN;bDAMMATAN;bKASRATAN;aTONE ONE DOT ABOVE;bTWO DOTS ABOVE
8EC;ARABIC TONE LOOP ABOVE;bONE DOT BELOW;bTWO DOTS BELOW;bLOOP BELOW;aOPEN FATHATAN;bDAMMATAN
8F2;ARABIC OPEN KASRATAN;aSMALL HIGH WAW;aFATHA WITH RING;cDOT ABOVE;aKASRA WITH DOT BELOW
8F7;ARABIC LEFT ARROWHEAD ABOVE;aRIGHT ARROWHEAD ABOVE;aLEFT ARROWHEAD BELOW
8FA;ARABIC RIGHT ARROWHEAD BELOW;aDOUBLE RIGHT ARROWHEAD ABOVE;eWITH DOT
8FD;ARABIC RIGHT ARROWHEAD ABOVE WITH DOT;aDAMMA WITH DOT;aMARK SIDEWAYS NOON GHUNNA
900;DEVANAGARI SIGN INVERTED CANDRABINDU;bCANDRABINDU;bANUSVARA;bVISARGA;aLETTER SHORT A;bA;bAA;bI
908;DEVANAGARI LETTER II;bU;bUU;bVOCALIC R;cL;bCANDRA E;bSHORT E;bE;bAI;bCANDRA O;bSHORT O;bO;bAU
915;DEVANAGARI LETTER KA;bKHA;bGA;bGHA;bNGA;bCA;bCHA;bJA;bJHA;bNYA;bTTA;bTTHA;bDDA;bDDHA;bNNA;bTA
925;DEVANAGARI LETTER THA;bDA;bDHA;bNA;bNNNA;bPA;bPHA;bBA;bBHA;bMA;bYA;bRA;bRRA;bLA;bLLA;bLLLA;bVA
936;DEVANAGARI LETTER SHA;bSSA;bSA;bHA;aVOWEL SIGN OE;cOOE;aSIGN NUKTA;bAVAGRAHA;aVOWEL SIGN AA;cI
940;DEVANAGARI VOWEL SIGN II;cU;cUU;cVOCALIC R;dRR;cCANDRA E;cSHORT E;cE;cAI;cCANDRA O;cSHORT O;cO
94C;DEVANAGARI VOWEL SIGN AU;aSIGN VIRAMA;aVOWEL SIGN PRISHTHAMATRA E;cAW;aOM;aSTRESS SIGN UDATTA
952;DEVANAGARI STRESS SIGN ANUDATTA;aGRAVE ACCENT;aACUTE ACCENT;aVOWEL SIGN CANDRA LONG E;cUE;cUUE
958;DEVANAGARI LETTER QA;bKHHA;bGHHA;bZA;bDDDHA;bRHA;bFA;bYYA;bVOCALIC RR;cLL
962;DEVANAGARI VOWEL SIGN VOCALIC L;dLL;aDANDA;aDOUBLE DANDA;aDIGIT ZERO;bONE;bTWO;bTHREE;bFOUR
96B;DEVANAGARI DIGIT FIVE;bSIX;bSEVEN;bEIGHT;bNINE;aABBREVIATION SIGN;aSIGN HIGH SPACING DOT
972;DEVANAGARI LETTER CANDRA A;bOE;bOOE;bAW;bUE;bUUE;bMARWARI DDA;bZHA;bHEAVY YA;bGGA;bJJA
97D;DEVANAGARI LETTER GLOTTAL STOP;bDDDA;bBBA;BENGALI ANJI;aSIGN CANDRABINDU;bANUSVARA;bVISARGA
985;BENGALI LETTER A;bAA;bI;bII;bU;bUU;bVOCALIC R;cL
98F;BENGALI LETTER E;bAI
993;BENGALI LETTER O;bAU;bKA;bKHA;bGA;bGHA;bNGA;bCA;bCHA;bJA;bJHA;bNYA;bTTA;bTTHA;bDDA;bDDHA;bNNA
9A4;BENGALI LETTER TA;bTHA;bDA;bDHA;bNA
9AA;BENGALI LETTER PA;bPHA;bBA;bBHA;bMA;bYA;bRA
9B2;BENGALI LETTER LA
9B6;BENGALI LETTER SHA;bSSA;bSA;bHA
9BC;BENGALI SIGN NUKTA;bAVAGRAHA;aVOWEL SIGN AA;cI;cII;cU;cUU;cVOCALIC R;dRR
9C7;BENGALI VOWEL SIGN E;cAI
9CB;BENGALI VOWEL SIGN O;cAU;aSIGN VIRAMA;aLETTER KHANDA TA
9D7;BENGALI AU LENGTH MARK
9DC;BENGALI LETTER RRA;bRHA
9DF;BENGALI LETTER YYA;bVOCALIC RR;cLL;aVOWEL SIGN VOCALIC L;dLL
9E6;BENGALI DIGIT ZERO;bONE;bTWO;bTHREE;bFOUR;bFIVE;bSIX;bSEVEN;bEIGHT;bNINE
9F0;BENGALI LETTER RA WITH MIDDLE DIAGONAL;dLOWER DIAGONAL;aRUPEE MARK;bSIGN
9F4;BENGALI CURRENCY NUMERATOR ONE;cTWO;cTHREE;cFOUR;cONE LESS THAN THE DENOMINATOR
9F9;BENGALI CURRENCY DENOMINATOR SIXTEEN;aISSHAR;aGANDA MARK;aLETTER VEDIC ANUSVARA
9FD;BENGALI ABBREVIATION SIGN;aSANDHI MARK
A01;GURMUKHI SIGN ADAK BINDI;bBINDI;bVISARGA
A05;GURMUKHI LETTER A;bAA;bI;bII;bU;bUU
A0F;GURMUKHI LETTER EE;bAI
A13;GURMUKHI LETTER OO;bAU;bKA;bKHA;bGA;bGHA;bNGA;bCA;bCHA;bJA;bJHA;bNYA;bTTA;bTTHA;bDDA;bDDHA
A23;GURMUKHI LETTER NNA;bTA;bTHA;bDA;bDHA;bNA
A2A;GURMUKHI LETTER PA;bPHA;bBA;bBHA;bMA;bYA;bRA
A32;GURMUKHI LETTER LA;bLLA
A35;GURMUKHI LETTER VA;bSHA
A38;GURMUKHI LETTER SA;bHA
A3C;GURMUKHI SIGN NUKTA
A3E;GURMUKHI VOWEL SIGN AA;cI;cII;cU;cUU
A47;GURMUKHI VOWEL SIGN EE;cAI
A4B;GURMUKHI VOWEL SIGN OO;cAU;aSIGN VIRAMA
A51;GURMUKHI SIGN UDAAT
A59;GURMUKHI LETTER KHHA;bGHHA;bZA;bRRA
A5E;GURMUKHI LETTER FA
A66;GURMUKHI DIGIT ZERO;bONE;bTWO;bTHREE;bFOUR;bFIVE;bSIX;bSEVEN;bEIGHT;bNINE;aTIPPI;aADDAK;aIRI
A73;GURMUKHI URA;aEK ONKAR;aSIGN YAKASH;aABBREVIATION SIGN
A81;GUJARATI SIGN CANDRABINDU;bANUSVARA;bVISARGA
A85;GUJARATI LETTER A;bAA;bI;bII;bU;bUU;bVOCALIC R;cL;aVOWEL CANDRA E
A8F;GUJARATI LETTER E;bAI;aVOWEL CANDRA O
A93;GUJARATI LETTER O;bAU;bKA;bKHA;bGA;bGHA;bNGA;bCA;bCHA;bJA;bJHA;bNYA;bTTA;bTTHA;bDDA;bDDHA;bNNA
AA4;GUJARATI LETTER TA;bTHA;bDA;bDHA;bNA
AAA;GUJARATI LETTER PA;bPHA;bBA;bBHA;bMA;bYA;bRA
AB2;GUJARATI LETTER LA;bLLA
AB5;GUJARATI LETTER VA;bSHA;bSSA;bSA;bHA
ABC;GUJARATI SIGN NUKTA;bAVAGRAHA;aVOWEL SIGN AA;cI;cII;cU;cUU;cVOCALIC R;dRR;cCANDRA E
AC7;GUJARATI VOWEL SIGN E;cAI;cCANDRA O
ACB;GUJARATI VOWEL SIGN O;cAU;aSIGN VIRAMA
AD0;GUJARATI OM
AE0;GUJARATI LETTER VOCALIC RR;cLL;aVOWEL SIGN VOCALIC L;dLL
AE6;GUJARATI DIGIT ZERO;bONE;bTWO;bTHREE;bFOUR;bFIVE;bSIX;bSEVEN;bEIGHT;bNINE;aABBREVIATION SIGN
AF1;GUJARATI RUPEE SIGN
AF9;GUJARATI LETTER ZHA;aSIGN SUKUN;bSHADDA;bMADDAH;bTHREE-DOT NUKTA ABOVE;bCIRCLE NUKTA ABOVE
AFF;GUJARATI SIGN TWO-CIRCLE NUKTA ABOVE
B01;ORIYA SIGN CANDRABINDU;bANUSVARA;bVISARGA
B05;ORIYA LETTER A;bAA;bI;bII;bU;bUU;bVOCALIC R;cL
B0F;ORIYA LETTER E;bAI
B13;ORIYA LETTER O;bAU;bKA;bKHA;bGA;bGHA;bNGA;bCA;bCHA;bJA;bJHA;bNYA;bTTA;bTTHA;bDDA;bDDHA;bNNA
B24;ORIYA LETTER TA;bTHA;bDA;bDHA;bNA
B2A;ORIYA LETTER PA;bPHA;bBA;bBHA;bMA;bYA;bRA
B32;ORIYA LETTER LA;bLLA
B35;ORIYA LETTER VA;bSHA;bSSA;bSA;bHA
B3C;ORIYA SIGN NUKTA;bAVAGRAHA;aVOWEL SIGN AA;cI;cII;cU;cUU;cVOCALIC R;dRR
B47;ORIYA VOWEL SIGN E;cAI
B4B;ORIYA VOWEL SIGN O;cAU;aSIGN VIRAMA
B55;ORIYA SIGN OVERLINE;aAI LENGTH MARK;aAU LENGTH MARK
B5C;ORIYA LETTER RRA;bRHA
B5F;ORIYA LETTER YYA;bVOCALIC RR;cLL;aVOWEL SIGN VOCALIC L;dLL
B66;ORIYA DIGIT ZERO;bONE;bTWO;bTHREE;bFOUR;bFIVE;bSIX;bSEVEN;bEIGHT;bNINE;aISSHAR;aLETTER WA
B72;ORIYA FRACTION ONE QUARTER;cHALF;bTHREE QUARTERS;bONE SIXTEENTH;cEIGHTH;bTHREE SIXTEENTHS
B82;TAMIL SIGN ANUSVARA;bVISARGA
B85;TAMIL LETTER A;bAA;bI;bII;bU;bUU
B8E;TAMIL LETTER E;bEE;bAI
B92;TAMIL LETTER O;bOO;bAU;bKA
B99;TAMIL LETTER NGA;bCA
B9C;TAMIL LETTER JA
B9E;TAMIL LETTER NYA;bTTA
BA3;TAMIL LETTER NNA;bTA
BA8;TAMIL LETTER NA;bNNNA;bPA
BAE;TAMIL LETTER MA;bYA;bRA;bRRA;bLA;bLLA;bLLLA;bVA;bSHA;bSSA;bSA;bHA
BBE;TAMIL VOWEL SIGN AA;cI;cII;cU;cUU
BC6;TAMIL VOWEL SIGN E;cEE;cAI
BCA;TAMIL VOWEL SIGN O;cOO;cAU;aSIGN VIRAMA
BD0;TAMIL OM
BD7;TAMIL AU LENGTH MARK
BE6;TAMIL DIGIT ZERO;bONE;bTWO;bTHREE;bFOUR;bFIVE;bSIX;bSEVEN;bEIGHT;bNINE;aNUMBER TEN
BF1;TAMIL NUMBER ONE HUNDRED;cTHOUSAND;aDAY SIGN;aMONTH SIGN;aYEAR SIGN;aDEBIT SIGN;aCREDIT SIGN
BF8;TAMIL AS ABOVE SIGN;aRUPEE SIGN;aNUMBER SIGN
C00;TELUGU SIGN COMBINING CANDRABINDU ABOVE;bCANDRABINDU;bANUSVARA;bVISARGA
C04;TELUGU SIGN COMBINING ANUSVARA ABOVE;aLETTER A;bAA;bI;bII;bU;bUU;bVOCALIC R;cL
C0E;TELUGU LETTER E;bEE;bAI
C12;TELUGU LETTER O;bOO;bAU;bKA;bKHA;bGA;bGHA;bNGA;bCA;bCHA;bJA;bJHA;bNYA;bTTA;bTTHA;bDDA;bDDHA
C23;TELUGU LETTER NNA;bTA;bTHA;bDA;bDHA;bNA
C2A;TELUGU LETTER PA;bPHA;bBA;bBHA;bMA;bYA;bRA;bRRA;bLA;bLLA;bLLLA;bVA;bSHA;bSSA;bSA;bHA
C3C;TELUGU SIGN NUKTA;bAVAGRAHA;aVOWEL SIGN AA;cI;cII;cU;cUU;cVOCALIC R;dRR
C46;TELUGU VOWEL SIGN E;cEE;cAI
C4A;TELUGU VOWEL SIGN O;cOO;cAU;aSIGN VIRAMA
C55;TELUGU LENGTH MARK;aAI LENGTH MARK
C58;TELUGU LETTER TSA;bDZA;bRRRA
C5D;TELUGU LETTER NAKAARA POLLU
C60;TELUGU LETTER VOCALIC RR;cLL;aVOWEL SIGN VOCALIC L;dLL
C66;TELUGU DIGIT ZERO;bONE;bTWO;bTHREE;bFOUR;bFIVE;bSIX;bSEVEN;bEIGHT;bNINE
C77;TELUGU SIGN SIDDHAM;aFRACTION DIGIT ZERO FOR ODD POWERS OF FOUR;cONE FOR ODD POWERS OF FOUR
C7A;TELUGU FRACTION DIGIT TWO FOR ODD POWERS OF FOUR;cTHREE FOR ODD POWERS OF FOUR
C7C;TELUGU FRACTION DIGIT ONE FOR EVEN POWERS OF FOUR;cTWO FOR EVEN POWERS OF FOUR
C7E;TELUGU FRACTION DIGIT THREE FOR EVEN POWERS OF FOUR;aSIGN TUUMU
C80;KANNADA SIGN SPACING CANDRABINDU;bCANDRABINDU;bANUSVARA;bVISARGA;bSIDDHAM;aLETTER A;bAA;bI;bII
C89;KANNADA LETTER U;bUU;bVOCALIC R;cL
C8E;KANNADA LETTER E;bEE;bAI
C92;KANNADA LETTER O;bOO;bAU;bKA;bKHA;bGA;bGHA;bNGA;bCA;bCHA;bJA;bJHA;bNYA;bTTA;bTTHA;bDDA;bDDHA
CA3;KANNADA LETTER NNA;bTA;bTHA;bDA;bDHA;bNA
CAA;KANNADA LETTER PA;bPHA;bBA;bBHA;bMA;bYA;bRA;bRRA;bLA;bLLA
CB5;KANNADA LETTER VA;bSHA;bSSA;bSA;bHA
CBC;KANNADA SIGN NUKTA;bAVAGRAHA;aVOWEL SIGN AA;cI;cII;cU;cUU;cVOCALIC R;dRR
CC6;KANNADA VOWEL SIGN E;cEE;cAI
CCA;KANNADA VOWEL SIGN O;cOO;cAU;aSIGN VIRAMA
CD5;KANNADA LENGTH MARK;aAI LENGTH MARK
CDD;KANNADA LETTER NAKAARA POLLU;bFA
CE0;KANNADA LETTER VOCALIC RR;cLL;aVOWEL SIGN VOCALIC L;dLL
CE6;KANNADA DIGIT ZERO;bONE;bTWO;bTHREE;bFOUR;bFIVE;bSIX;bSEVEN;bEIGHT;bNINE
CF1;KANNADA SIGN JIHVAMULIYA;bUPADHMANIYA
D00;MALAYALAM SIGN COMBINING ANUSVARA ABOVE;bCANDRABINDU;bANUSVARA;bVISARGA;aLETTER VEDIC ANUSVARA
D05;MALAYALAM LETTER A;bAA;bI;bII;bU;bUU;bVOCALIC R;cL
D0E;MALAYALAM LETTER E;bEE;bAI
D12;MALAYALAM LETTER O;bOO;bAU;bKA;bKHA;bGA;bGHA;bNGA;bCA;bCHA;bJA;bJHA;bNYA;bTTA;bTTHA;bDDA;bDDHA
D23;MALAYALAM LETTER NNA;bTA;bTHA;bDA;bDHA;bNA;bNNNA;bPA;bPHA;bBA;bBHA;bMA;bYA;bRA;bRRA;bLA;bLLA
D34;MALAYALAM LETTER LLLA;bVA;bSHA;bSSA;bSA;bHA;bTTTA;aSIGN VERTICAL BAR VIRAMA;bCIRCULAR VIRAMA
D3D;MALAYALAM SIGN AVAGRAHA;aVOWEL SIGN AA;cI;cII;cU;cUU;cVOCALIC R;dRR
D46;MALAYALAM VOWEL SIGN E;cEE;cAI
D4A;MALAYALAM VOWEL SIGN O;cOO;cAU;aSIGN VIRAMA;aLETTER DOT REPH;aSIGN PARA
D54;MALAYALAM LETTER CHILLU M;cY;cLLL;aAU LENGTH MARK;aFRACTION ONE ONE-HUNDRED-AND-SIXTIETH
D59;MALAYALAM FRACTION ONE FORTIETH;bTHREE EIGHTIETHS;bONE TWENTIETH;cTENTH;bTHREE TWENTIETHS
D5E;MALAYALAM FRACTION ONE FIFTH;aLETTER ARCHAIC II;bVOCALIC RR;cLL;aVOWEL SIGN VOCALIC L;dLL
D66;MALAYALAM DIGIT ZERO;bONE;bTWO;bTHREE;bFOUR;bFIVE;bSIX;bSEVEN;bEIGHT;bNINE;aNUMBER TEN
D71;MALAYALAM NUMBER ONE HUNDRED;cTHOUSAND;aFRACTION ONE QUARTER;cHALF;bTHREE QUARTERS
D76;MALAYALAM FRACTION ONE SIXTEENTH;cEIGHTH;bTHREE SIXTEENTHS;aDATE MARK;aLETTER CHILLU NN;cN;cRR
D7D;MALAYALAM LETTER CHILLU L;cLL;cK
D81;SINHALA SIGN CANDRABINDU;bANUSVARAYA;bVISARGAYA
D85;SINHALA LETTER AYANNA;bAAYANNA;bAEYANNA;bAEEYANNA;bIYANNA;bIIYANNA;bUYANNA;bUUYANNA;bIRUYANNA
D8E;SINHALA LETTER IRUUYANNA;bILUYANNA;bILUUYANNA;bEYANNA;bEEYANNA;bAIYANNA;bOYANNA;bOOYANNA
D96;SINHALA LETTER AUYANNA
D9A;SINHALA LETTER ALPAPRAANA KAYANNA;bMAHAAPRAANA KAYANNA;bALPAPRAANA GAYANNA
D9D;SINHALA LETTER MAHAAPRAANA GAYANNA;bKANTAJA NAASIKYAYA;bSANYAKA GAYANNA;bALPAPRAANA CAYANNA
DA1;SINHALA LETTER MAHAAPRAANA CAYANNA;bALPAPRAANA JAYANNA;bMAHAAPRAANA JAYANNA
DA4;SINHALA LETTER TAALUJA NAASIKYAYA;cSANYOOGA NAAKSIKYAYA;bSANYAKA JAYANNA;bALPAPRAANA TTAYANNA
DA8;SINHALA LETTER MAHAAPRAANA TTAYANNA;bALPAPRAANA DDAYANNA;bMAHAAPRAANA DDAYANNA
DAB;SINHALA LETTER MUURDHAJA NAYANNA;bSANYAKA DDAYANNA;bALPAPRAANA TAYANNA;bMAHAAPRAANA TAYANNA
DAF;SINHALA LETTER ALPAPRAANA DAYANNA;bMAHAAPRAANA DAYANNA;bDANTAJA NAYANNA
DB3;SINHALA LETTER SANYAKA DAYANNA;bALPAPRAANA PAYANNA;bMAHAAPRAANA PAYANNA;bALPAPRAANA BAYANNA
DB7;SINHALA LETTER MAHAAPRAANA BAYANNA;bMAYANNA;bAMBA BAYANNA;bYAYANNA;bRAYANNA
DBD;SINHALA LETTER DANTAJA LAYANNA
DC0;SINHALA LETTER VAYANNA;bTAALUJA SAYANNA;bMUURDHAJA SAYANNA;bDANTAJA SAYANNA;bHAYANNA
DC5;SINHALA LETTER MUURDHAJA LAYANNA;bFAYANNA
DCA;SINHALA SIGN AL-LAKUNA
DCF;SINHALA VOWEL SIGN AELA-PILLA;cKETTI AEDA-PILLA;cDIGA AEDA-PILLA;cKETTI IS-PILLA
DD3;SINHALA VOWEL SIGN DIGA IS-PILLA;cKETTI PAA-PILLA
DD6;SINHALA VOWEL SIGN DIGA PAA-PILLA
DD8;SINHALA VOWEL SIGN GAETTA-PILLA;cKOMBUVA;cDIGA KOMBUVA;cKOMBU DEKA;cKOMBUVA HAA AELA-PILLA
DDD;SINHALA VOWEL SIGN KOMBUVA HAA DIGA AELA-PILLA;eGAYANUKITTA;cGAYANUKITTA
DE6;SINHALA LITH DIGIT ZERO;cONE;cTWO;cTHREE;cFOUR;cFIVE;cSIX;cSEVEN;cEIGHT;cNINE
DF2;SINHALA VOWEL SIGN DIGA GAETTA-PILLA;dGAYANUKITTA;aPUNCTUATION KUNDDALIYA
E01;THAI CHARACTER KO KAI;bKHO KHAI;cKHUAT;cKHWAI;cKHON;cRAKHANG;bNGO NGU;bCHO CHAN;cCHING;cCHANG
E0B;THAI CHARACTER SO SO;bCHO CHOE;bYO YING;bDO CHADA;bTO PATAK;bTHO THAN;cNANGMONTHO;cPHUTHAO
E13;THAI CHARACTER NO NEN;bDO DEK;bTO TAO;bTHO THUNG;cTHAHAN;cTHONG;bNO NU;bBO BAIMAI;bPO PLA
E1C;THAI CHARACTER PHO PHUNG;bFO FA;bPHO PHAN;bFO FAN;bPHO SAMPHAO;bMO MA;bYO YAK;bRO RUA;bRU
E25;THAI CHARACTER LO LING;bLU;bWO WAEN;bSO SALA;cRUSI;cSUA;bHO HIP;bLO CHULA;bO ANG;bHO NOKHUK
E2F;THAI CHARACTER PAIYANNOI;bSARA A;bMAI HAN-AKAT;bSARA AA;cAM;cI;cII;cUE;cUEE;cU;cUU;bPHINTHU
E3F;THAI CURRENCY SYMBOL BAHT;aCHARACTER SARA E;cAE;cO;cAI MAIMUAN;dMAIMALAI;bLAKKHANGYAO
E46;THAI CHARACTER MAIYAMOK;bMAITAIKHU;bMAI EK;cTHO;cTRI;cCHATTAWA;bTHANTHAKHAT;bNIKHAHIT
E4E;THAI CHARACTER YAMAKKAN;bFONGMAN;aDIGIT ZERO;bONE;bTWO;bTHREE;bFOUR;bFIVE;bSIX;bSEVEN;bEIGHT
E59;THAI DIGIT NINE;aCHARACTER ANGKHANKHU;bKHOMUT
E81;LAO LETTER KO;bKHO SUNG
E84;LAO LETTER KHO TAM
E86;LAO LETTER PALI GHA;bNGO;bCO;bPALI CHA;bSO TAM
E8C;LAO LETTER PALI JHA;bNYO;bPALI NYA;cTTA;cTTHA;cDDA;cDDHA;cNNA;bDO;bTO;bTHO SUNG;cTAM;bPALI DHA
E99;LAO LETTER NO;bBO;bPO;bPHO SUNG;bFO TAM;bPHO TAM;bFO SUNG;bPALI BHA;bMO;bYO;bLO LING
EA5;LAO LETTER LO LOOT
EA7;LAO LETTER WO;bSANSKRIT SHA;cSSA;bSO SUNG;bHO SUNG;bPALI LLA;bO;bHO TAM;aELLIPSIS
EB0;LAO VOWEL SIGN A;cMAI KAN;cAA;cAM;cI;cII;cY;cYY;cU;cUU;aSIGN PALI VIRAMA;aVOWEL SIGN MAI KON
EBC;LAO SEMIVOWEL SIGN LO;cNYO
EC0;LAO VOWEL SIGN E;cEI;cO;cAY;cAI
EC6;LAO KO LA
EC8;LAO TONE MAI EK;cTHO;cTI;cCATAWA;aCANCELLATION MARK;aNIGGAHITA
ED0;LAO DIGIT ZERO;bONE;bTWO;bTHREE;bFOUR;bFIVE;bSIX;bSEVEN;bEIGHT;bNINE
EDC;LAO HO NO;bMO;aLETTER KHMU GO;cNYO
F00;TIBETAN SYLLABLE OM;aMARK GTER YIG MGO TRUNCATED A;e-UM RNAM BCAD MA;fGTER TSHEG MA
F04;TIBETAN MARK INITIAL YIG MGO MDUN MA;bCLOSING YIG MGO SGAB MA;bCARET YIG MGO PHUR SHAD MA
F07;TIBETAN MARK YIG MGO TSHEG SHAD MA;bSBRUL SHAD;bBSKUR YIG MGO;bBKA- SHOG YIG MGO
F0B;TIBETAN MARK INTERSYLLABIC TSHEG;bDELIMITER TSHEG BSTAR;bSHAD;bNYIS SHAD;bTSHEG SHAD
F10;TIBETAN MARK NYIS TSHEG SHAD;bRIN CHEN SPUNGS SHAD;bRGYA GRAM SHAD
F13;TIBETAN MARK CARET -DZUD RTAGS ME LONG CAN;bGTER TSHEG;aLOGOTYPE SIGN CHAD RTAGS;cLHAG RTAGS
F17;TIBETAN ASTROLOGICAL SIGN SGRA GCAN -CHAR RTAGS;c-KHYUD PA;cSDONG TSHUGS;aSIGN RDEL DKAR GCIG
F1B;TIBETAN SIGN RDEL DKAR GNYIS;dGSUM;cNAG GCIG;dGNYIS;cDKAR RDEL NAG;aDIGIT ZERO;bONE;bTWO
F23;TIBETAN DIGIT THREE;bFOUR;bFIVE;bSIX;bSEVEN;bEIGHT;bNINE;bHALF ONE;cTWO;cTHREE;cFOUR;cFIVE
F2F;TIBETAN DIGIT HALF SIX;cSEVEN;cEIGHT;cNINE;cZERO;aMARK BSDUS RTAGS;bNGAS BZUNG NYI ZLA
F36;TIBETAN MARK CARET -DZUD RTAGS BZHI MIG CAN;bNGAS BZUNG SGOR RTAGS;bCHE MGO;bTSA -PHRU
F3A;TIBETAN MARK GUG RTAGS GYON;dGYAS;bANG KHANG GYON;dGYAS;aSIGN YAR TSHES;bMAR TSHES;aLETTER KA
F41;TIBETAN LETTER KHA;bGA;bGHA;bNGA;bCA;bCHA;bJA
F49;TIBETAN LETTER NYA;bTTA;bTTHA;bDDA;bDDHA;bNNA;bTA;bTHA;bDA;bDHA;bNA;bPA;bPHA;bBA;bBHA;bMA;bTSA
F5A;TIBETAN LETTER TSHA;bDZA;bDZHA;bWA;bZHA;bZA;b-A;bYA;bRA;bLA;bSHA;bSSA;bSA;bHA;bA;bKSSA
F6A;TIBETAN LETTER FIXED-FORM RA;bKKA;bRRA
F71;TIBETAN VOWEL SIGN AA;cI;cII;cU;cUU;cVOCALIC R;dRR;dL;dLL;cE;cEE;cO;cOO;aSIGN RJES SU NGA RO
F7F;TIBETAN SIGN RNAM BCAD;aVOWEL SIGN REVERSED I;dII;aSIGN NYI ZLA NAA DA;bSNA LDAN;aMARK HALANTA
F85;TIBETAN MARK PALUTA;aSIGN LCI RTAGS;bYANG RTAGS;bLCE TSA CAN;bMCHU CAN;bGRU CAN RGYINGS
F8B;TIBETAN SIGN GRU MED RGYINGS;bINVERTED MCHU CAN;aSUBJOINED SIGN LCE TSA CAN;cMCHU CAN
F8F;TIBETAN SUBJOINED SIGN INVERTED MCHU CAN;bLETTER KA;cKHA;cGA;cGHA;cNGA;cCA;cCHA;cJA
F99;TIBETAN SUBJOINED LETTER NYA;cTTA;cTTHA;cDDA;cDDHA;cNNA;cTA;cTHA;cDA;cDHA;cNA;cPA;cPHA;cBA
FA7;TIBETAN SUBJOINED LETTER BHA;cMA;cTSA;cTSHA;cDZA;cDZHA;cWA;cZHA;cZA;c-A;cYA;cRA;cLA;cSHA;cSSA
FB6;TIBETAN SUBJOINED LETTER SA;cHA;cA;cKSSA;cFIXED-FORM WA;dYA;dRA
FBE;TIBETAN KU RU KHA;dBZHI MIG CAN;aCANTILLATION SIGN HEAVY BEAT;cLIGHT BEAT;cCANG TE-U
FC3;TIBETAN CANTILLATION SIGN SBUB -CHAL;aSYMBOL DRIL BU;bRDO RJE;bPADMA GDAN;bRDO RJE RGYA GRAM
FC8;TIBETAN SYMBOL PHUR PA;bNOR BU;dNYIS -KHYIL;dGSUM -KHYIL;dBZHI -KHYIL
FCE;TIBETAN SIGN RDEL NAG RDEL DKAR;dGSUM;aMARK BSKA- SHOG GI MGO RGYAN;bMNYAM YIG GI MGO RGYAN
FD2;TIBETAN MARK NYIS TSHEG;bINITIAL BRDA RNYING YIG MGO MDUN MA
FD4;TIBETAN MARK CLOSING BRDA RNYING YIG MGO SGAB MA;RIGHT-FACING SVASTI SIGN
FD6;LEFT-FACING SVASTI SIGN;RIGHT-FACING SVASTI SIGN WITH DOTS;LEFT-FACING SVASTI SIGN WITH DOTS
FD9;TIBETAN MARK LEADING MCHAN RTAGS;bTRAILING MCHAN RTAGS
1000;MYANMAR LETTER KA;bKHA;bGA;bGHA;bNGA;bCA;bCHA;bJA;bJHA;bNYA;bNNYA;bTTA;bTTHA;bDDA;bDDHA;bNNA
1010;MYANMAR LETTER TA;bTHA;bDA;bDHA;bNA;bPA;bPHA;bBA;bBHA;bMA;bYA;bRA;bLA;bWA;bSA;bHA;bLLA;bA
1022;MYANMAR LETTER SHAN A;bI;bII;bU;bUU;bE;bMON E;bO;bAU;aVOWEL SIGN TALL AA;cAA;cI;cII;cU;cUU;cE
1032;MYANMAR VOWEL SIGN AI;cMON II;dO;cE ABOVE;aSIGN ANUSVARA;bDOT BELOW;bVISARGA;bVIRAMA;bASAT
103B;MYANMAR CONSONANT SIGN MEDIAL YA;dRA;dWA;dHA;aLETTER GREAT SA;aDIGIT ZERO;bONE;bTWO;bTHREE
1044;MYANMAR DIGIT FOUR;bFIVE;bSIX;bSEVEN;bEIGHT;bNINE;aSIGN LITTLE SECTION;bSECTION
104C;MYANMAR SYMBOL LOCATIVE;bCOMPLETED;bAFOREMENTIONED;bGENITIVE;aLETTER SHA;bSSA;bVOCALIC R;cRR
1054;MYANMAR LETTER VOCALIC L;cLL;aVOWEL SIGN VOCALIC R;dRR;dL;dLL;aLETTER MON NGA;cJHA;cBBA;cBBE
105E;MYANMAR CONSONANT SIGN MON MEDIAL NA;eMA;eLA;aLETTER SGAW KAREN SHA;aVOWEL SIGN SGAW KAREN EU
1063;MYANMAR TONE MARK SGAW KAREN HATHI;eKE PHO;aLETTER WESTERN PWO KAREN THA;ePWA
1067;MYANMAR VOWEL SIGN WESTERN PWO KAREN EU;fUE;aSIGN WESTERN PWO KAREN TONE-1;eTONE-2;eTONE-3
106C;MYANMAR SIGN WESTERN PWO KAREN TONE-4;eTONE-5;aLETTER EASTERN PWO KAREN NNA;eYWA;eGHWA
1071;MYANMAR VOWEL SIGN GEBA KAREN I;cKAYAH OE;dU;dEE;aLETTER SHAN KA;cKHA;cGA;cCA;cZA;cNYA;cDA
107C;MYANMAR LETTER SHAN NA;cPHA;cFA;cBA;cTHA;cHA;aCONSONANT SIGN SHAN MEDIAL WA
1083;MYANMAR VOWEL SIGN SHAN AA;dE;eABOVE;dFINAL Y;aSIGN SHAN TONE-2;cTONE-3;cTONE-5;cTONE-6
108B;MYANMAR SIGN SHAN COUNCIL TONE-2;dTONE-3;dEMPHATIC TONE;aLETTER RUMAI PALAUNG FA
108F;MYANMAR SIGN RUMAI PALAUNG TONE-5;aSHAN DIGIT ZERO;cONE;cTWO;cTHREE;cFOUR;cFIVE;cSIX;cSEVEN
1098;MYANMAR SHAN DIGIT EIGHT;cNINE;aSIGN KHAMTI TONE-1;cTONE-3;aVOWEL SIGN AITON A;dAI
109E;MYANMAR SYMBOL SHAN ONE;cEXCLAMATION;GEORGIAN CAPITAL LETTER AN;cBAN;cGAN;cDON;cEN;cVIN;cZEN
10A7;GEORGIAN CAPITAL LETTER TAN;cIN;cKAN;cLAS;cMAN;cNAR;cON;cPAR;cZHAR;cRAE;cSAN;cTAR;cUN;cPHAR
10B5;GEORGIAN CAPITAL LETTER KHAR;cGHAN;cQAR;cSHIN;cCHIN;cCAN;cJIL;cCIL;cCHAR;cXAN;cJHAN;cHAE;cHE
10C2;GEORGIAN CAPITAL LETTER HIE;cWE;cHAR;cHOE
10C7;GEORGIAN CAPITAL LETTER YN
10CD;GEORGIAN CAPITAL LETTER AEN
10D0;GEORGIAN LETTER AN;bBAN;bGAN;bDON;bEN;bVIN;bZEN;bTAN;bIN;bKAN;bLAS;bMAN;bNAR;bON;bPAR;bZHAR
10E0;GEORGIAN LETTER RAE;bSAN;bTAR;bUN;bPHAR;bKHAR;bGHAN;bQAR;bSHIN;bCHIN;bCAN;bJIL;bCIL;bCHAR
10EE;GEORGIAN LETTER XAN;bJHAN;bHAE;bHE;bHIE;bWE;bHAR;bHOE;bFI;bYN;bELIFI;bTURNED GAN;bAIN
10FB;GEORGIAN PARAGRAPH SEPARATOR;MODIFIER LETTER GEORGIAN NAR;GEORGIAN LETTER AEN;bHARD SIGN
10FF;GEORGIAN LETTER LABIAL SIGN;HANGUL CHOSEONG KIYEOK;bSSANGKIYEOK;bNIEUN;bTIKEUT;bSSANGTIKEUT
1105;HANGUL CHOSEONG RIEUL;bMIEUM;bPIEUP;bSSANGPIEUP;bSIOS;bSSANGSIOS;bIEUNG;bCIEUC;bSSANGCIEUC
110E;HANGUL CHOSEONG CHIEUCH;bKHIEUKH;bTHIEUTH;bPHIEUPH;bHIEUH;bNIEUN-KIYEOK;bSSANGNIEUN
1115;HANGUL CHOSEONG NIEUN-TIKEUT;bNIEUN-PIEUP;bTIKEUT-KIYEOK;bRIEUL-NIEUN;bSSANGRIEUL
111A;HANGUL CHOSEONG RIEUL-HIEUH;bKAPYEOUNRIEUL;bMIEUM-PIEUP;bKAPYEOUNMIEUM;bPIEUP-KIYEOK
111F;HANGUL CHOSEONG PIEUP-NIEUN;bPIEUP-TIKEUT;bPIEUP-SIOS;bPIEUP-SIOS-KIYEOK;bPIEUP-SIOS-TIKEUT
1124;HANGUL CHOSEONG PIEUP-SIOS-PIEUP;bPIEUP-SSANGSIOS;bPIEUP-SIOS-CIEUC;bPIEUP-CIEUC
1128;HANGUL CHOSEONG PIEUP-CHIEUCH;bPIEUP-THIEUTH;bPIEUP-PHIEUPH;bKAPYEOUNPIEUP
112C;HANGUL CHOSEONG KAPYEOUNSSANGPIEUP;bSIOS-KIYEOK;bSIOS-NIEUN;bSIOS-TIKEUT;bSIOS-RIEUL
1131;HANGUL CHOSEONG SIOS-MIEUM;bSIOS-PIEUP;bSIOS-PIEUP-KIYEOK;bSIOS-SSANGSIOS;bSIOS-IEUNG
1136;HANGUL CHOSEONG SIOS-CIEUC;bSIOS-CHIEUCH;bSIOS-KHIEUKH;bSIOS-THIEUTH;bSIOS-PHIEUPH
113B;HANGUL CHOSEONG SIOS-HIEUH;bCHITUEUMSIOS;bCHITUEUMSSANGSIOS;bCEONGCHIEUMSIOS
113F;HANGUL CHOSEONG CEONGCHIEUMSSANGSIOS;bPANSIOS;bIEUNG-KIYEOK;bIEUNG-TIKEUT;bIEUNG-MIEUM
1144;HANGUL CHOSEONG IEUNG-PIEUP;bIEUNG-SIOS;bIEUNG-PANSIOS;bSSANGIEUNG;bIEUNG-CIEUC
1149;HANGUL CHOSEONG IEUNG-CHIEUCH;bIEUNG-THIEUTH;bIEUNG-PHIEUPH;bYESIEUNG;bCIEUC-IEUNG
114E;HANGUL CHOSEONG CHITUEUMCIEUC;bCHITUEUMSSANGCIEUC;bCEONGCHIEUMCIEUC;bCEONGCHIEUMSSANGCIEUC
1152;HANGUL CHOSEONG CHIEUCH-KHIEUKH;bCHIEUCH-HIEUH;bCHITUEUMCHIEUCH;bCEONGCHIEUMCHIEUCH
1156;HANGUL CHOSEONG PHIEUPH-PIEUP;bKAPYEOUNPHIEUPH;bSSANGHIEUH;bYEORINHIEUH;bKIYEOK-TIKEUT
115B;HANGUL CHOSEONG NIEUN-SIOS;bNIEUN-CIEUC;bNIEUN-HIEUH;bTIKEUT-RIEUL;bFILLER;aJUNGSEONG FILLER
1161;HANGUL JUNGSEONG A;bAE;bYA;bYAE;bEO;bE;bYEO;bYE;bO;bWA;bWAE;bOE;bYO;bU;bWEO;bWE;bWI;bYU;bEU
1174;HANGUL JUNGSEONG YI;bI;bA-O;bA-U;bYA-O;bYA-YO;bEO-O;bEO-U;bEO-EU;bYEO-O;bYEO-U;bO-EO;bO-E
1181;HANGUL JUNGSEONG O-YE;bO-O;bO-U;bYO-YA;bYO-YAE;bYO-YEO;bYO-O;bYO-I;bU-A;bU-AE;bU-EO-EU;bU-YE
118D;HANGUL JUNGSEONG U-U;bYU-A;bYU-EO;bYU-E;bYU-YEO;bYU-YE;bYU-U;bYU-I;bEU-U;bEU-EU;bYI-U;bI-A
1199;HANGUL JUNGSEONG I-YA;bI-O;bI-U;bI-EU;bI-ARAEA;bARAEA;bARAEA-EO;bARAEA-U;bARAEA-I;bSSANGARAEA
11A3;HANGUL JUNGSEONG A-EU;bYA-U;bYEO-YA;bO-YA;bO-YAE;aJONGSEONG KIYEOK;bSSANGKIYEOK;bKIYEOK-SIOS
11AB;HANGUL JONGSEONG NIEUN;bNIEUN-CIEUC;bNIEUN-HIEUH;bTIKEUT;bRIEUL;bRIEUL-KIYEOK;bRIEUL-MIEUM
11B2;HANGUL JONGSEONG RIEUL-PIEUP;bRIEUL-SIOS;bRIEUL-THIEUTH;bRIEUL-PHIEUPH;bRIEUL-HIEUH;bMIEUM
11B8;HANGUL JONGSEONG PIEUP;bPIEUP-SIOS;bSIOS;bSSANGSIOS;bIEUNG;bCIEUC;bCHIEUCH;bKHIEUKH;bTHIEUTH
11C1;HANGUL JONGSEONG PHIEUPH;bHIEUH;bKIYEOK-RIEUL;bKIYEOK-SIOS-KIYEOK;bNIEUN-KIYEOK;bNIEUN-TIKEUT
11C7;HANGUL JONGSEONG NIEUN-SIOS;bNIEUN-PANSIOS;bNIEUN-THIEUTH;bTIKEUT-KIYEOK;bTIKEUT-RIEUL
11CC;HANGUL JONGSEONG RIEUL-KIYEOK-SIOS;bRIEUL-NIEUN;bRIEUL-TIKEUT;bRIEUL-TIKEUT-HIEUH;bSSANGRIEUL
11D1;HANGUL JONGSEONG RIEUL-MIEUM-KIYEOK;bRIEUL-MIEUM-SIOS;bRIEUL-PIEUP-SIOS;bRIEUL-PIEUP-HIEUH
11D5;HANGUL JONGSEONG RIEUL-KAPYEOUNPIEUP;bRIEUL-SSANGSIOS;bRIEUL-PANSIOS;bRIEUL-KHIEUKH
11D9;HANGUL JONGSEONG RIEUL-YEORINHIEUH;bMIEUM-KIYEOK;bMIEUM-RIEUL;bMIEUM-PIEUP;bMIEUM-SIOS
11DE;HANGUL JONGSEONG MIEUM-SSANGSIOS;bMIEUM-PANSIOS;bMIEUM-CHIEUCH;bMIEUM-HIEUH;bKAPYEOUNMIEUM
11E3;HANGUL JONGSEONG PIEUP-RIEUL;bPIEUP-PHIEUPH;bPIEUP-HIEUH;bKAPYEOUNPIEUP;bSIOS-KIYEOK
11E8;HANGUL JONGSEONG SIOS-TIKEUT;bSIOS-RIEUL;bSIOS-PIEUP;bPANSIOS;bIEUNG-KIYEOK
11ED;HANGUL JONGSEONG IEUNG-SSANGKIYEOK;bSSANGIEUNG;bIEUNG-KHIEUKH;bYESIEUNG;bYESIEUNG-SIOS
11F2;HANGUL JONGSEONG YESIEUNG-PANSIOS;bPHIEUPH-PIEUP;bKAPYEOUNPHIEUPH;bHIEUH-NIEUN;bHIEUH-RIEUL
11F7;HANGUL JONGSEONG HIEUH-MIEUM;bHIEUH-PIEUP;bYEORINHIEUH;bKIYEOK-NIEUN;bKIYEOK-PIEUP
11FC;HANGUL JONGSEONG KIYEOK-CHIEUCH;bKIYEOK-KHIEUKH;bKIYEOK-HIEUH;bSSANGNIEUN
1200;ETHIOPIC SYLLABLE HA;bHU;bHI;bHAA;bHEE;bHE;bHO;bHOA;bLA;bLU;bLI;bLAA;bLEE;bLE;bLO;bLWA;bHHA
1211;ETHIOPIC SYLLABLE HHU;bHHI;bHHAA;bHHEE;bHHE;bHHO;bHHWA;bMA;bMU;bMI;bMAA;bMEE;bME;bMO;bMWA
1220;ETHIOPIC SYLLABLE SZA;bSZU;bSZI;bSZAA;bSZEE;bSZE;bSZO;bSZWA;bRA;bRU;bRI;bRAA;bREE;bRE;bRO
122F;ETHIOPIC SYLLABLE RWA;bSA;bSU;bSI;bSAA;bSEE;bSE;bSO;bSWA;bSHA;bSHU;bSHI;bSHAA;bSHEE;bSHE;bSHO
123F;ETHIOPIC SYLLABLE SHWA;bQA;bQU;bQI;bQAA;bQEE;bQE;bQO;bQOA;bQWA
124A;ETHIOPIC SYLLABLE QWI;bQWAA;bQWEE;bQWE
1250;ETHIOPIC SYLLABLE QHA;bQHU;bQHI;bQHAA;bQHEE;bQHE;bQHO
1258;ETHIOPIC SYLLABLE QHWA
125A;ETHIOPIC SYLLABLE QHWI;bQHWAA;bQHWEE;bQHWE
1260;ETHIOPIC SYLLABLE BA;bBU;bBI;bBAA;bBEE;bBE;bBO;bBWA;bVA;bVU;bVI;bVAA;bVEE;bVE;bVO;bVWA;bTA
1271;ETHIOPIC SYLLABLE TU;bTI;bTAA;bTEE;bTE;bTO;bTWA;bCA;bCU;bCI;bCAA;bCEE;bCE;bCO;bCWA;bXA;bXU
1282;ETHIOPIC SYLLABLE XI;bXAA;bXEE;bXE;bXO;bXOA;bXWA
128A;ETHIOPIC SYLLABLE XWI;bXWAA;bXWEE;bXWE
1290;ETHIOPIC SYLLABLE NA;bNU;bNI;bNAA;bNEE;bNE;bNO;bNWA;bNYA;bNYU;bNYI;bNYAA;bNYEE;bNYE;bNYO
129F;ETHIOPIC SYLLABLE NYWA;bGLOTTAL A;cU;cI;cAA;cEE;cE;cO;cWA;bKA;bKU;bKI;bKAA;bKEE;bKE;bKO;bKOA
12B0;ETHIOPIC SYLLABLE KWA
12B2;ETHIOPIC SYLLABLE KWI;bKWAA;bKWEE;bKWE
12B8;ETHIOPIC SYLLABLE KXA;bKXU;bKXI;bKXAA;bKXEE;bKXE;bKXO
12C0;ETHIOPIC SYLLABLE KXWA
12C2;ETHIOPIC SYLLABLE KXWI;bKXWAA;bKXWEE;bKXWE
12C8;ETHIOPIC SYLLABLE WA;bWU;bWI;bWAA;bWEE;bWE;bWO;bWOA;bPHARYNGEAL A;cU;cI;cAA;cEE;cE;cO
12D8;ETHIOPIC SYLLABLE ZA;bZU;bZI;bZAA;bZEE;bZE;bZO;bZWA;bZHA;bZHU;bZHI;bZHAA;bZHEE;bZHE;bZHO
12E7;ETHIOPIC SYLLABLE ZHWA;bYA;bYU;bYI;bYAA;bYEE;bYE;bYO;bYOA;bDA;bDU;bDI;bDAA;bDEE;bDE;bDO;bDWA
12F8;ETHIOPIC SYLLABLE DDA;bDDU;bDDI;bDDAA;bDDEE;bDDE;bDDO;bDDWA;bJA;bJU;bJI;bJAA;bJEE;bJE;bJO
1307;ETHIOPIC SYLLABLE JWA;bGA;bGU;bGI;bGAA;bGEE;bGE;bGO;bGOA;bGWA
1312;ETHIOPIC SYLLABLE GWI;bGWAA;bGWEE;bGWE
1318;ETHIOPIC SYLLABLE GGA;bGGU;bGGI;bGGAA;bGGEE;bGGE;bGGO;bGGWAA;bTHA;bTHU;bTHI;bTHAA;bTHEE;bTHE
1326;ETHIOPIC SYLLABLE THO;bTHWA;bCHA;bCHU;bCHI;bCHAA;bCHEE;bCHE;bCHO;bCHWA;bPHA;bPHU;bPHI;bPHAA
1334;ETHIOPIC SYLLABLE PHEE;bPHE;bPHO;bPHWA;bTSA;bTSU;bTSI;bTSAA;bTSEE;bTSE;bTSO;bTSWA;bTZA;bTZU
1342;ETHIOPIC SYLLABLE TZI;bTZAA;bTZEE;bTZE;bTZO;bTZOA;bFA;bFU;bFI;bFAA;bFEE;bFE;bFO;bFWA;bPA;bPU
1352;ETHIOPIC SYLLABLE PI;bPAA;bPEE;bPE;bPO;bPWA;bRYA;bMYA;bFYA
135D;ETHIOPIC COMBINING GEMINATION AND VOWEL LENGTH MARK;bVOWEL LENGTH MARK;bGEMINATION MARK
1360;ETHIOPIC SECTION MARK;aWORDSPACE;aFULL STOP;aCOMMA;aSEMICOLON;aCOLON;aPREFACE COLON
1367;ETHIOPIC QUESTION MARK;aPARAGRAPH SEPARATOR;aDIGIT ONE;bTWO;bTHREE;bFOUR;bFIVE;bSIX;bSEVEN
1370;ETHIOPIC DIGIT EIGHT;bNINE;aNUMBER TEN;bTWENTY;bTHIRTY;bFORTY;bFIFTY;bSIXTY;bSEVENTY;bEIGHTY
137A;ETHIOPIC NUMBER NINETY;bHUNDRED;bTEN THOUSAND
1380;ETHIOPIC SYLLABLE SEBATBEIT MWA;bMWI;bMWEE;bMWE;bSEBATBEIT BWA;bBWI;bBWEE;bBWE;bSEBATBEIT FWA
1389;ETHIOPIC SYLLABLE FWI;bFWEE;bFWE;bSEBATBEIT PWA;bPWI;bPWEE;bPWE;aTONAL MARK YIZET;cDERET
1392;ETHIOPIC TONAL MARK RIKRIK;cSHORT RIKRIK;cDIFAT;cKENAT;cCHIRET;cHIDET;cDERET-HIDET;cKURT
13A0;CHEROKEE LETTER A;bE;bI;bO;bU;bV;bGA;bKA;bGE;bGI;bGO;bGU;bGV;bHA;bHE;bHI;bHO;bHU;bHV;bLA;bLE
13B5;CHEROKEE LETTER LI;bLO;bLU;bLV;bMA;bME;bMI;bMO;bMU;bNA;bHNA;bNAH;bNE;bNI;bNO;bNU;bNV;bQUA
13C7;CHEROKEE LETTER QUE;bQUI;bQUO;bQUU;bQUV;bSA;bS;bSE;bSI;bSO;bSU;bSV;bDA;bTA;bDE;bTE;bDI;bTI
13D9;CHEROKEE LETTER DO;bDU;bDV;bDLA;bTLA;bTLE;bTLI;bTLO;bTLU;bTLV;bTSA;bTSE;bTSI;bTSO;bTSU;bTSV
13E9;CHEROKEE LETTER WA;bWE;bWI;bWO;bWU;bWV;bYA;bYE;bYI;bYO;bYU;bYV;bMV
13F8;CHEROKEE SMALL LETTER YE;cYI;cYO;cYU;cYV;cMV
1400;CANADIAN SYLLABICS HYPHEN;bE;bAAI;bI;bII;bO;bOO;bY-CREE OO;bCARRIER EE;cI;bA;bAA;bWE
140D;CANADIAN SYLLABICS WEST-CREE WE;bWI;bWEST-CREE WI;bWII;bWEST-CREE WII;bWO;bWEST-CREE WO;bWOO
1415;CANADIAN SYLLABICS WEST-CREE WOO;bNASKAPI WOO;bWA;bWEST-CREE WA;bWAA;bWEST-CREE WAA
141B;CANADIAN SYLLABICS NASKAPI WAA;bAI;bY-CREE W;bGLOTTAL STOP;bFINAL ACUTE;cGRAVE
1421;CANADIAN SYLLABICS FINAL BOTTOM HALF RING;cTOP HALF RING;cRIGHT HALF RING;cRING;cDOUBLE ACUTE
1426;CANADIAN SYLLABICS FINAL DOUBLE SHORT VERTICAL STROKES;cMIDDLE DOT;cSHORT HORIZONTAL STROKE
1429;CANADIAN SYLLABICS FINAL PLUS;cDOWN TACK;bEN;bIN;bON;bAN;bPE;bPAAI;bPI;bPII;bPO;bPOO
1435;CANADIAN SYLLABICS Y-CREE POO;bCARRIER HEE;cHI;bPA;bPAA;bPWE;bWEST-CREE PWE;bPWI
143D;CANADIAN SYLLABICS WEST-CREE PWI;bPWII;bWEST-CREE PWII;bPWO;bWEST-CREE PWO;bPWOO
1443;CANADIAN SYLLABICS WEST-CREE PWOO;bPWA;bWEST-CREE PWA;bPWAA;bWEST-CREE PWAA;bY-CREE PWAA;bP
144A;CANADIAN SYLLABICS WEST-CREE P;bCARRIER H;bTE;bTAAI;bTI;bTII;bTO;bTOO;bY-CREE TOO
1453;CANADIAN SYLLABICS CARRIER DEE;cDI;bTA;bTAA;bTWE;bWEST-CREE TWE;bTWI;bWEST-CREE TWI;bTWII
145C;CANADIAN SYLLABICS WEST-CREE TWII;bTWO;bWEST-CREE TWO;bTWOO;bWEST-CREE TWOO;bTWA
1462;CANADIAN SYLLABICS WEST-CREE TWA;bTWAA;bWEST-CREE TWAA;bNASKAPI TWAA;bT;bTTE;bTTI;bTTO;bTTA
146B;CANADIAN SYLLABICS KE;bKAAI;bKI;bKII;bKO;bKOO;bY-CREE KOO;bKA;bKAA;bKWE;bWEST-CREE KWE;bKWI
1477;CANADIAN SYLLABICS WEST-CREE KWI;bKWII;bWEST-CREE KWII;bKWO;bWEST-CREE KWO;bKWOO
147D;CANADIAN SYLLABICS WEST-CREE KWOO;bKWA;bWEST-CREE KWA;bKWAA;bWEST-CREE KWAA;bNASKAPI KWAA;bK
1484;CANADIAN SYLLABICS KW;bSOUTH-SLAVEY KEH;cKIH;cKOH;cKAH;bCE;bCAAI;bCI;bCII;bCO;bCOO
148F;CANADIAN SYLLABICS Y-CREE COO;bCA;bCAA;bCWE;bWEST-CREE CWE;bCWI;bWEST-CREE CWI;bCWII
1497;CANADIAN SYLLABICS WEST-CREE CWII;bCWO;bWEST-CREE CWO;bCWOO;bWEST-CREE CWOO;bCWA
149D;CANADIAN SYLLABICS WEST-CREE CWA;bCWAA;bWEST-CREE CWAA;bNASKAPI CWAA;bC;bSAYISI TH;bME;bMAAI
14A5;CANADIAN SYLLABICS MI;bMII;bMO;bMOO;bY-CREE MOO;bMA;bMAA;bMWE;bWEST-CREE MWE;bMWI
14AF;CANADIAN SYLLABICS WEST-CREE MWI;bMWII;bWEST-CREE MWII;bMWO;bWEST-CREE MWO;bMWOO
14B5;CANADIAN SYLLABICS WEST-CREE MWOO;bMWA;bWEST-CREE MWA;bMWAA;bWEST-CREE MWAA;bNASKAPI MWAA;bM
14BC;CANADIAN SYLLABICS WEST-CREE M;bMH;bATHAPASCAN M;bSAYISI M;bNE;bNAAI;bNI;bNII;bNO;bNOO
14C6;CANADIAN SYLLABICS Y-CREE NOO;bNA;bNAA;bNWE;bWEST-CREE NWE;bNWA;bWEST-CREE NWA;bNWAA
14CE;CANADIAN SYLLABICS WEST-CREE NWAA;bNASKAPI NWAA;bN;bCARRIER NG;bNH;bLE;bLAAI;bLI;bLII;bLO
14D8;CANADIAN SYLLABICS LOO;bY-CREE LOO;bLA;bLAA;bLWE;bWEST-CREE LWE;bLWI;bWEST-CREE LWI;bLWII
14E1;CANADIAN SYLLABICS WEST-CREE LWII;bLWO;bWEST-CREE LWO;bLWOO;bWEST-CREE LWOO;bLWA
14E7;CANADIAN SYLLABICS WEST-CREE LWA;bLWAA;bWEST-CREE LWAA;bL;bWEST-CREE L;bMEDIAL L;bSE;bSAAI
14EF;CANADIAN SYLLABICS SI;bSII;bSO;bSOO;bY-CREE SOO;bSA;bSAA;bSWE;bWEST-CREE SWE;bSWI
14F9;CANADIAN SYLLABICS WEST-CREE SWI;bSWII;bWEST-CREE SWII;bSWO;bWEST-CREE SWO;bSWOO
14FF;CANADIAN SYLLABICS WEST-CREE SWOO;bSWA;bWEST-CREE SWA;bSWAA;bWEST-CREE SWAA;bNASKAPI SWAA;bS
1506;CANADIAN SYLLABICS ATHAPASCAN S;bSW;bBLACKFOOT S;bMOOSE-CREE SK;bNASKAPI SKW;cS-W;cSPWA;cSTWA
150E;CANADIAN SYLLABICS NASKAPI SKWA;cSCWA;bSHE;bSHI;bSHII;bSHO;bSHOO;bSHA;bSHAA;bSHWE
1518;CANADIAN SYLLABICS WEST-CREE SHWE;bSHWI;bWEST-CREE SHWI;bSHWII;bWEST-CREE SHWII;bSHWO
151E;CANADIAN SYLLABICS WEST-CREE SHWO;bSHWOO;bWEST-CREE SHWOO;bSHWA;bWEST-CREE SHWA;bSHWAA
1524;CANADIAN SYLLABICS WEST-CREE SHWAA;bSH;bYE;bYAAI;bYI;bYII;bYO;bYOO;bY-CREE YOO;bYA;bYAA;bYWE
1530;CANADIAN SYLLABICS WEST-CREE YWE;bYWI;bWEST-CREE YWI;bYWII;bWEST-CREE YWII;bYWO
1536;CANADIAN SYLLABICS WEST-CREE YWO;bYWOO;bWEST-CREE YWOO;bYWA;bWEST-CREE YWA;bYWAA
153C;CANADIAN SYLLABICS WEST-CREE YWAA;bNASKAPI YWAA;bY;bBIBLE-CREE Y;bWEST-CREE Y;bSAYISI YI;bRE
1543;CANADIAN SYLLABICS R-CREE RE;bWEST-CREE LE;bRAAI;bRI;bRII;bRO;bROO;bWEST-CREE LO;bRA;bRAA
154D;CANADIAN SYLLABICS WEST-CREE LA;bRWAA;bWEST-CREE RWAA;bR;bWEST-CREE R;bMEDIAL R;bFE;bFAAI;bFI
1556;CANADIAN SYLLABICS FII;bFO;bFOO;bFA;bFAA;bFWAA;bWEST-CREE FWAA;bF;bTHE;bN-CREE THE;bTHI
1561;CANADIAN SYLLABICS N-CREE THI;bTHII;bN-CREE THII;bTHO;bTHOO;bTHA;bTHAA;bTHWAA
1569;CANADIAN SYLLABICS WEST-CREE THWAA;bTH;bTTHE;bTTHI;bTTHO;bTTHA;bTTH;bTYE;bTYI;bTYO;bTYA
1574;CANADIAN SYLLABICS NUNAVIK HE;cHI;cHII;cHO;cHOO;cHA;cHAA;cH;bNUNAVUT H;bHK;bQAAI;bQI;bQII;bQO
1582;CANADIAN SYLLABICS QOO;bQA;bQAA;bQ;bTLHE;bTLHI;bTLHO;bTLHA;bWEST-CREE RE;cRI;cRO;cRA;bNGAAI
158F;CANADIAN SYLLABICS NGI;bNGII;bNGO;bNGOO;bNGA;bNGAA;bNG;bNNG;bSAYISI SHE;cSHI;cSHO;cSHA
159B;CANADIAN SYLLABICS WOODS-CREE THE;cTHI;cTHO;cTHA;cTH;bLHI;bLHII;bLHO;bLHOO;bLHA;bLHAA;bLH
15A7;CANADIAN SYLLABICS TH-CREE THE;cTHI;cTHII;cTHO;cTHOO;cTHA;cTHAA;cTH;bAIVILIK B;bBLACKFOOT E
15B1;CANADIAN SYLLABICS BLACKFOOT I;cO;cA;cWE;cWI;cWO;cWA;cNE;cNI;cNO;cNA;cKE;cKI;cKO;cKA
15C0;CANADIAN SYLLABICS SAYISI HE;cHI;cHO;cHA;bCARRIER GHU;cGHO;cGHE;cGHEE;cGHI;cGHA;cRU;cRO;cRE
15CD;CANADIAN SYLLABICS CARRIER REE;cRI;cRA;cWU;cWO;cWE;cWEE;cWI;cWA;cHWU;cHWO;cHWE;cHWEE;cHWI
15DB;CANADIAN SYLLABICS CARRIER HWA;cTHU;cTHO;cTHE;cTHEE;cTHI;cTHA;cTTU;cTTO;cTTE;cTTEE;cTTI;cTTA
15E8;CANADIAN SYLLABICS CARRIER PU;cPO;cPE;cPEE;cPI;cPA;cP;cGU;cGO;cGE;cGEE;cGI;cGA;cKHU;cKHO;cKHE
15F8;CANADIAN SYLLABICS CARRIER KHEE;cKHI;cKHA;cKKU;cKKO;cKKE;cKKEE;cKKI;cKKA;cKK;cNU;cNO;cNE;cNEE
1606;CANADIAN SYLLABICS CARRIER NI;cNA;cMU;cMO;cME;cMEE;cMI;cMA;cYU;cYO;cYE;cYEE;cYI;cYA;cJU
1615;CANADIAN SYLLABICS SAYISI JU;bCARRIER JO;cJE;cJEE;cJI;bSAYISI JI;bCARRIER JA;cJJU;cJJO;cJJE
161F;CANADIAN SYLLABICS CARRIER JJEE;cJJI;cJJA;cLU;cLO;cLE;cLEE;cLI;cLA;cDLU;cDLO;cDLE;cDLEE;cDLI
162D;CANADIAN SYLLABICS CARRIER DLA;cLHU;cLHO;cLHE;cLHEE;cLHI;cLHA;cTLHU;cTLHO;cTLHE;cTLHEE;cTLHI
1639;CANADIAN SYLLABICS CARRIER TLHA;cTLU;cTLO;cTLE;cTLEE;cTLI;cTLA;cZU;cZO;cZE;cZEE;cZI;cZA;cZ
1647;CANADIAN SYLLABICS CARRIER INITIAL Z;cDZU;cDZO;cDZE;cDZEE;cDZI;cDZA;cSU;cSO;cSE;cSEE;cSI;cSA
1654;CANADIAN SYLLABICS CARRIER SHU;cSHO;cSHE;cSHEE;cSHI;cSHA;cSH;cTSU;cTSO;cTSE;cTSEE;cTSI;cTSA
1661;CANADIAN SYLLABICS CARRIER CHU;cCHO;cCHE;cCHEE;cCHI;cCHA;cTTSU;cTTSO;cTTSE;cTTSEE;cTTSI;cTTSA
166D;CANADIAN SYLLABICS CHI SIGN;bFULL STOP;bQAI;bNGAI;bNNGI;bNNGII;bNNGO;bNNGOO;bNNGA;bNNGAA
1677;CANADIAN SYLLABICS WOODS-CREE THWEE;cTHWI;cTHWII;cTHWO;cTHWOO;cTHWA;cTHWAA;cFINAL TH
167F;CANADIAN SYLLABICS BLACKFOOT W;OGHAM SPACE MARK;aLETTER BEITH;bLUIS;bFEARN;bSAIL;bNION;bUATH
1687;OGHAM LETTER DAIR;bTINNE;bCOLL;bCEIRT;bMUIN;bGORT;bNGEADAL;bSTRAIF;bRUIS;bAILM;bONN;bUR
1693;OGHAM LETTER EADHADH;bIODHADH;bEABHADH;bOR;bUILLEANN;bIFIN;bEAMHANCHOLL;bPEITH;aFEATHER MARK
169C;OGHAM REVERSED FEATHER MARK
16A0;RUNIC LETTER FEHU FEOH FE F;bV;bURUZ UR U;bYR;bY;bW;bTHURISAZ THURS THORN;bETH;bANSUZ A;bOS O
16AA;RUNIC LETTER AC A;bAESC;bLONG-BRANCH-OSS O;bSHORT-TWIG-OSS O;bO;bOE;bON;bRAIDO RAD REID R
16B2;RUNIC LETTER KAUNA;bCEN;bKAUN K;bG;bENG;bGEBO GYFU G;bGAR;bWUNJO WYNN W;bHAGLAZ H;bHAEGL H
16BC;RUNIC LETTER LONG-BRANCH-HAGALL H;bSHORT-TWIG-HAGALL H;bNAUDIZ NYD NAUD N;bSHORT-TWIG-NAUD N
16C0;RUNIC LETTER DOTTED-N;bISAZ IS ISS I;bE;bJERAN J;bGER;bLONG-BRANCH-AR AE;bSHORT-TWIG-AR A
16C7;RUNIC LETTER IWAZ EOH;bPERTHO PEORTH P;bALGIZ EOLHX;bSOWILO S;bSIGEL LONG-BRANCH-SOL S
16CC;RUNIC LETTER SHORT-TWIG-SOL S;bC;bZ;bTIWAZ TIR TYR T;bSHORT-TWIG-TYR T;bD
16D2;RUNIC LETTER BERKANAN BEORC BJARKAN B;bSHORT-TWIG-BJARKAN B;bDOTTED-P;bOPEN-P;bEHWAZ EH E
16D7;RUNIC LETTER MANNAZ MAN M;bLONG-BRANCH-MADR M;bSHORT-TWIG-MADR M;bLAUKAZ LAGU LOGR L
16DB;RUNIC LETTER DOTTED-L;bINGWAZ;bING;bDAGAZ DAEG D;bOTHALAN ETHEL O;bEAR;bIOR;bCWEORTH;bCALC
16E4;RUNIC LETTER CEALC;bSTAN;bLONG-BRANCH-YR;bSHORT-TWIG-YR;bICELANDIC-YR;bQ;bX
16EB;RUNIC SINGLE PUNCTUATION;aMULTIPLE PUNCTUATION;aCROSS PUNCTUATION;aARLAUG SYMBOL
16EF;RUNIC TVIMADUR SYMBOL;aBELGTHOR SYMBOL;aLETTER K;bSH;bOO;bFRANKS CASKET OS;dIS;dEH;dAC;dAESC
1700;TAGALOG LETTER A;bI;bU;bKA;bGA;bNGA;bTA;bDA;bNA;bPA;bBA;bMA;bYA;bRA;bLA;bWA;bSA;bHA
1712;TAGALOG VOWEL SIGN I;cU;aSIGN VIRAMA;bPAMUDPOD
171F;TAGALOG LETTER ARCHAIC RA;HANUNOO LETTER A;bI;bU;bKA;bGA;bNGA;bTA;bDA;bNA;bPA;bBA;bMA;bYA;bRA
172E;HANUNOO LETTER LA;bWA;bSA;bHA;aVOWEL SIGN I;cU;aSIGN PAMUDPOD;PHILIPPINE SINGLE PUNCTUATION
1736;PHILIPPINE DOUBLE PUNCTUATION
1740;BUHID LETTER A;bI;bU;bKA;bGA;bNGA;bTA;bDA;bNA;bPA;bBA;bMA;bYA;bRA;bLA;bWA;bSA;bHA
1752;BUHID VOWEL SIGN I;cU
1760;TAGBANWA LETTER A;bI;bU;bKA;bGA;bNGA;bTA;bDA;bNA;bPA;bBA;bMA;bYA
176E;TAGBANWA LETTER LA;bWA;bSA
1772;TAGBANWA VOWEL SIGN I;cU
1780;KHMER LETTER KA;bKHA;bKO;bKHO;bNGO;bCA;bCHA;bCO;bCHO;bNYO;bDA;bTTHA;bDO;bTTHO;bNNO;bTA;bTHA
1791;KHMER LETTER TO;bTHO;bNO;bBA;bPHA;bPO;bPHO;bMO;bYO;bRO;bLO;bVO;bSHA;bSSO;bSA;bHA;bLA;bQA
17A3;KHMER INDEPENDENT VOWEL QAQ;cQAA;cQI;cQII;cQU;cQUK;cQUU;cQUUV;cRY;cRYY;cLY;cLYY;cQE;cQAI
17B1;KHMER INDEPENDENT VOWEL QOO TYPE ONE;eTWO;cQAU;aVOWEL INHERENT AQ;cAA;bSIGN AA;cI;cII;cY;cYY
17BB;KHMER VOWEL SIGN U;cUU;cUA;cOE;cYA;cIE;cE;cAE;cAI;cOO;cAU;aSIGN NIKAHIT;bREAHMUK
17C8;KHMER SIGN YUUKALEAPINTU;bMUUSIKATOAN;bTRIISAP;bBANTOC;bROBAT;bTOANDAKHIAT;bKAKABAT;bAHSDA
17D0;KHMER SIGN SAMYOK SANNYA;bVIRIAM;bCOENG;bBATHAMASAT;bKHAN;bBARIYOOSAN;bCAMNUC PII KUUH
17D7;KHMER SIGN LEK TOO;bBEYYAL;bPHNAEK MUAN;bKOOMUUT;aCURRENCY SYMBOL RIEL;aSIGN AVAKRAHASANYA
17DD;KHMER SIGN ATTHACAN
17E0;KHMER DIGIT ZERO;bONE;bTWO;bTHREE;bFOUR;bFIVE;bSIX;bSEVEN;bEIGHT;bNINE
17F0;KHMER SYMBOL LEK ATTAK SON;dMUOY;dPII;dBEI;dBUON;dPRAM;dPRAM-MUOY;dPRAM-PII;dPRAM-BEI
17F9;KHMER SYMBOL LEK ATTAK PRAM-BUON
1800;MONGOLIAN BIRGA;aELLIPSIS;aCOMMA;aFULL STOP;aCOLON;aFOUR DOTS;aTODO SOFT HYPHEN
1807;MONGOLIAN SIBE SYLLABLE BOUNDARY MARKER;aMANCHU COMMA;bFULL STOP;aNIRUGU
180B;MONGOLIAN FREE VARIATION SELECTOR ONE;dTWO;dTHREE;aVOWEL SEPARATOR
180F;MONGOLIAN FREE VARIATION SELECTOR FOUR;aDIGIT ZERO;bONE;bTWO;bTHREE;bFOUR;bFIVE;bSIX;bSEVEN
1818;MONGOLIAN DIGIT EIGHT;bNINE
1820;MONGOLIAN LETTER A;bE;bI;bO;bU;bOE;bUE;bEE;bNA;bANG;bBA;bPA;bQA;bGA;bMA;bLA;bSA;bSHA;bTA;bDA
1834;MONGOLIAN LETTER CHA;bJA;bYA;bRA;bWA;bFA;bKA;bKHA;bTSA;bZA;bHAA;bZRA;bLHA;bZHI;bCHI
1843;MONGOLIAN LETTER TODO LONG VOWEL SIGN;cE;cI;cO;cU;cOE;cUE;cANG;cBA;cPA;cQA;cGA;cMA;cTA;cDA
1852;MONGOLIAN LETTER TODO CHA;cJA;cTSA;cYA;cWA;cKA;cGAA;cHAA;cJIA;cNIA;cDZA;bSIBE E;cI;cIY;cUE;cU
1862;MONGOLIAN LETTER SIBE ANG;cKA;cGA;cHA;cPA;cSHA;cTA;cDA;cJA;cFA;cGAA;cHAA;cTSA;cZA;cRAA;cCHA
1872;MONGOLIAN LETTER SIBE ZHA;bMANCHU I;cKA;cRA;cFA;cZHA;bCHA WITH TWO DOTS
1880;MONGOLIAN LETTER ALI GALI ANUSVARA ONE;dVISARGA ONE;dDAMARU;dUBADAMA;dINVERTED UBADAMA
1885;MONGOLIAN LETTER ALI GALI BALUDA;dTHREE BALUDA;dA;dI;dKA;dNGA;dCA;dTTA;dTTHA;dDDA;dNNA;dTA
1891;MONGOLIAN LETTER ALI GALI DA;dPA;dPHA;dSSA;dZHA;dZA;dAH;bTODO ALI GALI TA;eZHA
189A;MONGOLIAN LETTER MANCHU ALI GALI GHA;eNGA;eCA;eJHA;eTTA;eDDHA;eTA;eDHA;eSSA;eCYA;eZHA;eZA
18A6;MONGOLIAN LETTER ALI GALI HALF U;eYA;bMANCHU ALI GALI BHA;bALI GALI DAGALGA
18AA;MONGOLIAN LETTER MANCHU ALI GALI LHA
18B0;CANADIAN SYLLABICS OY;bAY;bAAY;bWAY;bPOY;bPAY;bPWOY;bTAY;bKAY;bKWAY;bMAY;bNOY;bNAY;bLAY;bSOY
18BF;CANADIAN SYLLABICS SAY;bSHOY;bSHAY;bSHWOY;bYOY;bYAY;bRAY;bNWI;bOJIBWAY NWI;bNWII
18C9;CANADIAN SYLLABICS OJIBWAY NWII;bNWO;bOJIBWAY NWO;bNWOO;bOJIBWAY NWOO;bRWEE;bRWI;bRWII;bRWO
18D2;CANADIAN SYLLABICS RWOO;bRWA;bOJIBWAY P;cT;cK;cC;cM;cN;cS;cSH;bEASTERN W;bWESTERN W
18DE;CANADIAN SYLLABICS FINAL SMALL RING;cRAISED DOT;bR-CREE RWE;bWEST-CREE LOO;cLAA;bTHWE;bTHWA
18E5;CANADIAN SYLLABICS TTHWE;bTTHOO;bTTHAA;bTLHWE;bTLHOO;bSAYISI SHWE;cSHOO;cHOO;bCARRIER GWU
18EE;CANADIAN SYLLABICS CARRIER DENE GEE;cGAA;cGWA;bSAYISI JUU;bCARRIER JWA;bBEAVER DENE L;dR
18F5;CANADIAN SYLLABICS CARRIER DENTAL S
1900;LIMBU VOWEL-CARRIER LETTER;aLETTER KA;bKHA;bGA;bGHA;bNGA;bCA;bCHA;bJA;bJHA;bYAN;bTA;bTHA;bDA
190E;LIMBU LETTER DHA;bNA;bPA;bPHA;bBA;bBHA;bMA;bYA;bRA;bLA;bWA;bSHA;bSSA;bSA;bHA;bGYAN;bTRA
1920;LIMBU VOWEL SIGN A;cI;cU;cEE;cAI;cOO;cAU;cE;cO;aSUBJOINED LETTER YA;cRA;cWA
1930;LIMBU SMALL LETTER KA;cNGA;cANUSVARA;cTA;cNA;cPA;cMA;cRA;cLA;aSIGN MUKPHRENG;bKEMPHRENG;bSA-I
1940;LIMBU SIGN LOO
1944;LIMBU EXCLAMATION MARK;aQUESTION MARK;aDIGIT ZERO;bONE;bTWO;bTHREE;bFOUR;bFIVE;bSIX;bSEVEN
194E;LIMBU DIGIT EIGHT;bNINE;TAI LE LETTER KA;cXA;cNGA;cTSA;cSA;cYA;cTA;cTHA;cLA;cPA;cPHA;cMA;cFA
195D;TAI LE LETTER VA;cHA;cQA;cKHA;cTSHA;cNA;cA;cI;cEE;cEH;cU;cOO;cO;cUE;cE;cAUE;cAI
1970;TAI LE LETTER TONE-2;cTONE-3;cTONE-4;cTONE-5;cTONE-6
1980;NEW TAI LUE LETTER HIGH QA;dLOW QA;dHIGH KA;eXA;eNGA;dLOW KA;eXA;eNGA;dHIGH TSA;eSA;eYA
198B;NEW TAI LUE LETTER LOW TSA;eSA;eYA;dHIGH TA;eTHA;eNA;dLOW TA;eTHA;eNA;dHIGH PA;ePHA;eMA
1997;NEW TAI LUE LETTER LOW PA;ePHA;eMA;dHIGH FA;eVA;eLA;dLOW FA;eVA;eLA;dHIGH HA;eDA;eBA;dLOW HA
19A4;NEW TAI LUE LETTER LOW DA;eBA;dHIGH KVA;eXVA;dLOW KVA;eXVA;dHIGH SUA;dLOW SUA
19B0;NEW TAI LUE VOWEL SIGN VOWEL SHORTENER;eAA;eII;eU;eUU;eE;eAE;eO;eOA;eUE;eAY;eAAY;eUY;eOY;eOAY
19BF;NEW TAI LUE VOWEL SIGN UEY;eIY;cLETTER FINAL V;eNG;eN;eM;eK;eD;eB;cTONE MARK-1;dMARK-2
19D0;NEW TAI LUE DIGIT ZERO;dONE;dTWO;dTHREE;dFOUR;dFIVE;dSIX;dSEVEN;dEIGHT;dNINE;cTHAM DIGIT ONE
19DE;NEW TAI LUE SIGN LAE;dLAEV;KHMER SYMBOL PATHAMASAT;bMUOY KOET;bPII KOET;bBEI KOET;bBUON KOET
19E5;KHMER SYMBOL PRAM KOET;bPRAM-MUOY KOET;bPRAM-PII KOET;bPRAM-BEI KOET;bPRAM-BUON KOET
19EA;KHMER SYMBOL DAP KOET;bDAP-MUOY KOET;bDAP-PII KOET;bDAP-BEI KOET;bDAP-BUON KOET
19EF;KHMER SYMBOL DAP-PRAM KOET;bTUTEYASAT;bMUOY ROC;bPII ROC;bBEI ROC;bBUON ROC;bPRAM ROC
19F6;KHMER SYMBOL PRAM-MUOY ROC;bPRAM-PII ROC;bPRAM-BEI ROC;bPRAM-BUON ROC;bDAP ROC;bDAP-MUOY ROC
19FC;KHMER SYMBOL DAP-PII ROC;bDAP-BEI ROC;bDAP-BUON ROC;bDAP-PRAM ROC;BUGINESE LETTER KA;bGA;bNGA
1A03;BUGINESE LETTER NGKA;bPA;bBA;bMA;bMPA;bTA;bDA;bNA;bNRA;bCA;bJA;bNYA;bNYCA;bYA;bRA;bLA;bVA;bSA
1A15;BUGINESE LETTER A;bHA;aVOWEL SIGN I;cU;cE;cO;cAE
1A1E;BUGINESE PALLAWA;aEND OF SECTION;TAI THAM LETTER HIGH KA;dKHA;dKXA;cLOW KA;dKXA;dKHA;cNGA
1A27;TAI THAM LETTER HIGH CA;dCHA;cLOW CA;dSA;dCHA;cNYA;cRATA;cHIGH RATHA;cDA;cLOW RATHA;cRANA
1A32;TAI THAM LETTER HIGH TA;dTHA;cLOW TA;dTHA;cNA;cBA;cHIGH PA;dPHA;dFA;cLOW PA;dFA;dPHA;cMA
1A3F;TAI THAM LETTER LOW YA;cHIGH YA;cRA;cRUE;cLA;cLUE;cWA;cHIGH SHA;dSSA;dSA;dHA;cLLA;cA;cLOW HA
1A4D;TAI THAM LETTER I;cII;cU;cUU;cEE;cOO;cLAE;cGREAT SA;bCONSONANT SIGN MEDIAL RA;eLA
1A57;TAI THAM CONSONANT SIGN LA TANG LAI;bSIGN MAI KANG LAI;bCONSONANT SIGN FINAL NGA;dLOW PA
1A5B;TAI THAM CONSONANT SIGN HIGH RATHA OR LOW PA;dMA;dBA;dSA
1A60;TAI THAM SIGN SAKOT;bVOWEL SIGN A;dMAI SAT;dAA;dTALL AA;dI;dII;dUE;dUUE;dU;dUU;dO;dOA BELOW
1A6D;TAI THAM VOWEL SIGN OY;dE;dAE;dOO;dAI;dTHAM AI;dOA ABOVE;bSIGN MAI KANG;cTONE-1;cTONE-2
1A77;TAI THAM SIGN KHUEN TONE-3;dTONE-4;dTONE-5;cRA HAAM;cMAI SAM;cKHUEN-LUE KARAN
1A7F;TAI THAM COMBINING CRYPTOGRAMMIC DOT;bHORA DIGIT ZERO;dONE;dTWO;dTHREE;dFOUR;dFIVE;dSIX
1A87;TAI THAM HORA DIGIT SEVEN;dEIGHT;dNINE
1A90;TAI THAM THAM DIGIT ZERO;dONE;dTWO;dTHREE;dFOUR;dFIVE;dSIX;dSEVEN;dEIGHT;dNINE
1AA0;TAI THAM SIGN WIANG;cWIANGWAAK;cSAWAN;cKEOW;cHOY;cDOKMAI;cREVERSED ROTATED RANA;cMAI YAMOK
1AA8;TAI THAM SIGN KAAN;cKAANKUU;cSATKAAN;cSATKAANKUU;cHANG;cCAANG
1AB0;COMBINING DOUBLED CIRCUMFLEX ACCENT;aDIAERESIS-RING;aINFINITY;aDOWNWARDS ARROW;aTRIPLE DOT
1AB5;COMBINING X-X BELOW;aWIGGLY LINE BELOW;aOPEN MARK BELOW;aDOUBLE OPEN MARK BELOW
1AB9;COMBINING LIGHT CENTRALIZATION STROKE BELOW;aSTRONG CENTRALIZATION STROKE BELOW
1ABB;COMBINING PARENTHESES ABOVE;aDOUBLE PARENTHESES ABOVE;aPARENTHESES BELOW;bOVERLAY
1ABF;COMBINING LATIN SMALL LETTER W BELOW;dTURNED W BELOW;aLEFT PARENTHESIS ABOVE LEFT
1AC2;COMBINING RIGHT PARENTHESIS ABOVE RIGHT;aLEFT PARENTHESIS BELOW LEFT
1AC4;COMBINING RIGHT PARENTHESIS BELOW RIGHT;aSQUARE BRACKETS ABOVE;aNUMBER SIGN ABOVE
1AC7;COMBINING INVERTED DOUBLE ARCH ABOVE;aPLUS SIGN ABOVE;aDOUBLE PLUS SIGN ABOVE;dBELOW
1ACB;COMBINING TRIPLE ACUTE ACCENT;aLATIN SMALL LETTER INSULAR G;eR;eT
1B00;BALINESE SIGN ULU RICEM;cCANDRA;bCECEK;bSURANG;bBISAH;aLETTER AKARA;cTEDUNG;bIKARA;cTEDUNG
1B09;BALINESE LETTER UKARA;cTEDUNG;bRA REPA;dTEDUNG;bLA LENGA;dTEDUNG;bEKARA;bAIKARA;bOKARA
1B12;BALINESE LETTER OKARA TEDUNG;bKA;cMAHAPRANA;bGA;cGORA;bNGA;bCA;cLACA;bJA;cJERA;bNYA;bTA LATIK
1B1E;BALINESE LETTER TA MURDA MAHAPRANA;bDA MURDA ALPAPRANA;dMAHAPRANA;bNA RAMBAT;bTA;cTAWA;bDA
1B25;BALINESE LETTER DA MADU;bNA;bPA;cKAPAL;bBA;cKEMBANG;bMA;bYA;bRA;bLA;bWA;bSA SAGA;cSAPA;bSA
1B33;BALINESE LETTER HA;aSIGN REREKAN;aVOWEL SIGN TEDUNG;cULU;dSARI;cSUKU;dILUT;cRA REPA;eTEDUNG
1B3C;BALINESE VOWEL SIGN LA LENGA;eTEDUNG;cTALING;dREPA;dTEDUNG;dREPA TEDUNG;cPEPET;dTEDUNG
1B44;BALINESE ADEG ADEG;aLETTER KAF SASAK;bKHOT SASAK;bTZIR SASAK;bEF SASAK;bVE SASAK;bZAL SASAK
1B4B;BALINESE LETTER ASYURA SASAK;bARCHAIC JNYA
1B50;BALINESE DIGIT ZERO;bONE;bTWO;bTHREE;bFOUR;bFIVE;bSIX;bSEVEN;bEIGHT;bNINE;aPANTI;aPAMADA
1B5C;BALINESE WINDU;aCARIK PAMUNGKAH;bSIKI;bPAREREN;aPAMENENG;aMUSICAL SYMBOL DONG;cDENG;cDUNG
1B64;BALINESE MUSICAL SYMBOL DANG;dSURANG;cDING;cDAENG;cDEUNG;cDAING;cDANG GEDE;cCOMBINING TEGEH
1B6C;BALINESE MUSICAL SYMBOL COMBINING ENDEP;dKEMPUL;dKEMPLI;dJEGOGAN;dKEMPUL WITH JEGOGAN
1B71;BALINESE MUSICAL SYMBOL COMBINING KEMPLI WITH JEGOGAN;dBENDE;dGONG;cRIGHT-HAND OPEN DUG;eDAG
1B76;BALINESE MUSICAL SYMBOL RIGHT-HAND CLOSED TUK;eTAK;cLEFT-HAND OPEN PANG;ePUNG;dCLOSED PLAK
1B7B;BALINESE MUSICAL SYMBOL LEFT-HAND CLOSED PLUK;dOPEN PING;aPANTI LANTANG;aPAMADA LANTANG
1B80;SUNDANESE SIGN PANYECEK;bPANGLAYAR;bPANGWISAD;aLETTER A;bI;bU;bAE;bO;bE;bEU;bKA;bQA;bGA;bNGA
1B8E;SUNDANESE LETTER CA;bJA;bZA;bNYA;bTA;bDA;bNA;bPA;bFA;bVA;bBA;bMA;bYA;bRA;bLA;bWA;bSA;bXA;bHA
1BA1;SUNDANESE CONSONANT SIGN PAMINGKAL;cPANYAKRA;cPANYIKU;aVOWEL SIGN PANGHULU;cPANYUKU
1BA6;SUNDANESE VOWEL SIGN PANAELAENG;cPANOLONG;cPAMEPET;cPANEULEUNG;aSIGN PAMAAEH;bVIRAMA
1BAC;SUNDANESE CONSONANT SIGN PASANGAN MA;dWA;aLETTER KHA;bSYA;aDIGIT ZERO;bONE;bTWO;bTHREE;bFOUR
1BB5;SUNDANESE DIGIT FIVE;bSIX;bSEVEN;bEIGHT;bNINE;aAVAGRAHA;aLETTER REU;bLEU;bBHA;bFINAL K;cM
1BC0;BATAK LETTER A;bSIMALUNGUN A;bHA;bSIMALUNGUN HA;bMANDAILING HA;bBA;bKARO BA;bPA
1BC8;BATAK LETTER SIMALUNGUN PA;bNA;bMANDAILING NA;bWA;bSIMALUNGUN WA;bPAKPAK WA;bGA
1BCF;BATAK LETTER SIMALUNGUN GA;bJA;bDA;bRA;bSIMALUNGUN RA;bMA;bSIMALUNGUN MA;bSOUTHERN TA
1BD7;BATAK LETTER NORTHERN TA;bSA;bSIMALUNGUN SA;bMANDAILING SA;bYA;bSIMALUNGUN YA;bNGA;bLA
1BDF;BATAK LETTER SIMALUNGUN LA;bNYA;bCA;bNDA;bMBA;bI;bU;aSIGN TOMPI;aVOWEL SIGN E;cPAKPAK E;cEE
1BEA;BATAK VOWEL SIGN I;cKARO I;cO;cKARO O;cU;dFOR SIMALUNGUN SA;aCONSONANT SIGN NG;cH;aPANGOLAT
1BF3;BATAK PANONGONAN
1BFC;BATAK SYMBOL BINDU NA METEK;cPINARBORAS;cJUDUL;cPANGOLAT;LEPCHA LETTER KA;bKLA;bKHA;bGA;bGLA
1C05;LEPCHA LETTER NGA;bCA;bCHA;bJA;bNYA;bTA;bTHA;bDA;bNA;bPA;bPLA;bPHA;bFA;bFLA;bBA;bBLA;bMA;bMLA
1C17;LEPCHA LETTER TSA;bTSHA;bDZA;bYA;bRA;bLA;bHA;bHLA;bVA;bSA;bSHA;bWA;bA;aSUBJOINED LETTER YA
1C25;LEPCHA SUBJOINED LETTER RA;aVOWEL SIGN AA;cI;cO;cOO;cU;cUU;cE;aCONSONANT SIGN K;cM;cL;cN;cP
1C32;LEPCHA CONSONANT SIGN R;cT;cNYIN-DO;cKANG;aSIGN RAN;bNUKTA
1C3B;LEPCHA PUNCTUATION TA-ROL;bNYET THYOOM TA-ROL;bCER-WA;bTSHOOK CER-WA;bTSHOOK;aDIGIT ZERO;bONE
1C42;LEPCHA DIGIT TWO;bTHREE;bFOUR;bFIVE;bSIX;bSEVEN;bEIGHT;bNINE
1C4D;LEPCHA LETTER TTA;bTTHA;bDDA;OL CHIKI DIGIT ZERO;cONE;cTWO;cTHREE;cFOUR;cFIVE;cSIX;cSEVEN
1C58;OL CHIKI DIGIT EIGHT;cNINE;bLETTER LA;cAT;cAG;cANG;cAL;cLAA;cAAK;cAAJ;cAAM;cAAW;cLI;cIS;cIH
1C67;OL CHIKI LETTER INY;cIR;cLU;cUC;cUD;cUNN;cUY;cLE;cEP;cEDD;cEN;cERR;cLO;cOTT;cOB;cOV;cOH
1C78;OL CHIKI MU TTUDDAG;bGAAHLAA TTUDDAAG;bMU-GAAHLAA TTUDDAAG;bRELAA;bPHAARKAA;bAHAD
1C7E;OL CHIKI PUNCTUATION MUCAAD;cDOUBLE MUCAAD;CYRILLIC SMALL LETTER ROUNDED VE;cLONG-LEGGED DE
1C82;CYRILLIC SMALL LETTER NARROW O;cWIDE ES;cTALL TE;cTHREE-LEGGED TE;cTALL HARD SIGN;dYAT
1C88;CYRILLIC SMALL LETTER UNBLENDED UK
1C90;GEORGIAN MTAVRULI CAPITAL LETTER AN;dBAN;dGAN;dDON;dEN;dVIN;dZEN;dTAN;dIN;dKAN;dLAS;dMAN;dNAR
1C9D;GEORGIAN MTAVRULI CAPITAL LETTER ON;dPAR;dZHAR;dRAE;dSAN;dTAR;dUN;dPHAR;dKHAR;dGHAN;dQAR
1CA8;GEORGIAN MTAVRULI CAPITAL LETTER SHIN;dCHIN;dCAN;dJIL;dCIL;dCHAR;dXAN;dJHAN;dHAE;dHE;dHIE;dWE
1CB4;GEORGIAN MTAVRULI CAPITAL LETTER HAR;dHOE;dFI;dYN;dELIFI;dTURNED GAN;dAIN
1CBD;GEORGIAN MTAVRULI CAPITAL LETTER AEN;dHARD SIGN;dLABIAL SIGN
1CC0;SUNDANESE PUNCTUATION BINDU SURYA;cPANGLONG;cPURNAMA;cCAKRA;cLEU SATANGA;cKA SATANGA
1CC6;SUNDANESE PUNCTUATION BINDU DA SATANGA;cBA SATANGA
1CD0;VEDIC TONE KARSHANA;bSHARA;bPRENKHA;aSIGN NIHSHVASA;bYAJURVEDIC MIDLINE SVARITA
1CD5;VEDIC TONE YAJURVEDIC AGGRAVATED INDEPENDENT SVARITA;cINDEPENDENT SVARITA
1CD7;VEDIC TONE YAJURVEDIC KATHAKA INDEPENDENT SVARITA;bCANDRA BELOW
1CD9;VEDIC TONE YAJURVEDIC KATHAKA INDEPENDENT SVARITA SCHROEDER;bDOUBLE SVARITA;bTRIPLE SVARITA
1CDC;VEDIC TONE KATHAKA ANUDATTA;bDOT BELOW;bTWO DOTS BELOW;bTHREE DOTS BELOW
1CE0;VEDIC TONE RIGVEDIC KASHMIRI INDEPENDENT SVARITA;bATHARVAVEDIC INDEPENDENT SVARITA
1CE2;VEDIC SIGN VISARGA SVARITA;cUDATTA;bREVERSED VISARGA UDATTA;bVISARGA ANUDATTA
1CE6;VEDIC SIGN REVERSED VISARGA ANUDATTA;bVISARGA UDATTA WITH TAIL;cANUDATTA WITH TAIL
1CE9;VEDIC SIGN ANUSVARA ANTARGOMUKHA;cBAHIRGOMUKHA;cVAMAGOMUKHA;dWITH TAIL;bTIRYAK
1CEE;VEDIC SIGN HEXIFORM LONG ANUSVARA;bLONG ANUSVARA;bRTHANG LONG ANUSVARA
1CF1;VEDIC SIGN ANUSVARA UBHAYATO MUKHA;bARDHAVISARGA;bROTATED ARDHAVISARGA;aTONE CANDRA ABOVE
1CF5;VEDIC SIGN JIHVAMULIYA;bUPADHMANIYA;bATIKRAMA;aTONE RING ABOVE;bDOUBLE RING ABOVE
1CFA;VEDIC SIGN DOUBLE ANUSVARA ANTARGOMUKHA
1D00;LATIN LETTER SMALL CAPITAL A;dAE;aSMALL LETTER TURNED AE;aLETTER SMALL CAPITAL BARRED B;dC;dD
1D06;LATIN LETTER SMALL CAPITAL ETH;dE;aSMALL LETTER TURNED OPEN E;dI;aLETTER SMALL CAPITAL J;dK
1D0C;LATIN LETTER SMALL CAPITAL L WITH STROKE;dM;dREVERSED N;dO;dOPEN O;aSMALL LETTER SIDEWAYS O
1D12;LATIN SMALL LETTER SIDEWAYS OPEN O;dO WITH STROKE;cTURNED OE;aLETTER SMALL CAPITAL OU
1D16;LATIN SMALL LETTER TOP HALF O;cBOTTOM HALF O;aLETTER SMALL CAPITAL P;dREVERSED R;dTURNED R;dT
1D1C;LATIN LETTER SMALL CAPITAL U;aSMALL LETTER SIDEWAYS U;dDIAERESIZED U;dTURNED M
1D20;LATIN LETTER SMALL CAPITAL V;dW;dZ;dEZH;bVOICED LARYNGEAL SPIRANT;bAIN
1D26;GREEK LETTER SMALL CAPITAL GAMMA;dLAMDA;dPI;dRHO;dPSI;CYRILLIC LETTER SMALL CAPITAL EL
1D2C;MODIFIER LETTER CAPITAL A;cAE;cB;cBARRED B;cD;cE;cREVERSED E;cG;cH;cI;cJ;cK;cL;cM;cN
1D3B;MODIFIER LETTER CAPITAL REVERSED N;cO;cOU;cP;cR;cT;cU;cW;bSMALL A;cTURNED A;cALPHA;cTURNED AE
1D47;MODIFIER LETTER SMALL B;cD;cE;cSCHWA;cOPEN E;cTURNED OPEN E;cG;cTURNED I;cK;cM;cENG;cO
1D53;MODIFIER LETTER SMALL OPEN O;cTOP HALF O;cBOTTOM HALF O;cP;cT;cU;cSIDEWAYS U;cTURNED M;cV
1D5C;MODIFIER LETTER SMALL AIN;cBETA;cGREEK GAMMA;cDELTA;cGREEK PHI;cCHI
1D62;LATIN SUBSCRIPT SMALL LETTER I;dR;dU;dV;GREEK SUBSCRIPT SMALL LETTER BETA;dGAMMA;dRHO;dPHI
1D6A;GREEK SUBSCRIPT SMALL LETTER CHI;LATIN SMALL LETTER UE;cB WITH MIDDLE TILDE
1D6D;LATIN SMALL LETTER D WITH MIDDLE TILDE;cF WITH MIDDLE TILDE;cM WITH MIDDLE TILDE
1D70;LATIN SMALL LETTER N WITH MIDDLE TILDE;cP WITH MIDDLE TILDE;cR WITH MIDDLE TILDE
1D73;LATIN SMALL LETTER R WITH FISHHOOK AND MIDDLE TILDE;cS WITH MIDDLE TILDE;cT WITH MIDDLE TILDE
1D76;LATIN SMALL LETTER Z WITH MIDDLE TILDE;cTURNED G;MODIFIER LETTER CYRILLIC EN
1D79;LATIN SMALL LETTER INSULAR G;cTH WITH STRIKETHROUGH;bCAPITAL LETTER I WITH STROKE
1D7C;LATIN SMALL LETTER IOTA WITH STROKE;cP WITH STROKE;bCAPITAL LETTER U WITH STROKE
1D7F;LATIN SMALL LETTER UPSILON WITH STROKE;cB WITH PALATAL HOOK;cD WITH PALATAL HOOK
1D82;LATIN SMALL LETTER F WITH PALATAL HOOK;cG WITH PALATAL HOOK;cK WITH PALATAL HOOK
1D85;LATIN SMALL LETTER L WITH PALATAL HOOK;cM WITH PALATAL HOOK;cN WITH PALATAL HOOK
1D88;LATIN SMALL LETTER P WITH PALATAL HOOK;cR WITH PALATAL HOOK;cS WITH PALATAL HOOK
1D8B;LATIN SMALL LETTER ESH WITH PALATAL HOOK;cV WITH PALATAL HOOK;cX WITH PALATAL HOOK
1D8E;LATIN SMALL LETTER Z WITH PALATAL HOOK;cA WITH RETROFLEX HOOK;cALPHA WITH RETROFLEX HOOK
1D91;LATIN SMALL LETTER D WITH HOOK AND TAIL;cE WITH RETROFLEX HOOK;cOPEN E WITH RETROFLEX HOOK
1D94;LATIN SMALL LETTER REVERSED OPEN E WITH RETROFLEX HOOK;cSCHWA WITH RETROFLEX HOOK
1D96;LATIN SMALL LETTER I WITH RETROFLEX HOOK;cOPEN O WITH RETROFLEX HOOK;cESH WITH RETROFLEX HOOK
1D99;LATIN SMALL LETTER U WITH RETROFLEX HOOK;cEZH WITH RETROFLEX HOOK
1D9B;MODIFIER LETTER SMALL TURNED ALPHA;cC;dWITH CURL;cETH;cREVERSED OPEN E;cF
1DA1;MODIFIER LETTER SMALL DOTLESS J WITH STROKE;cSCRIPT G;cTURNED H;cI WITH STROKE;cIOTA
1DA6;MODIFIER LETTER SMALL CAPITAL I;eWITH STROKE;cJ WITH CROSSED-TAIL;cL WITH RETROFLEX HOOK
1DAA;MODIFIER LETTER SMALL L WITH PALATAL HOOK;cCAPITAL L;cM WITH HOOK;cTURNED M WITH LONG LEG
1DAE;MODIFIER LETTER SMALL N WITH LEFT HOOK;eRETROFLEX HOOK;cCAPITAL N;cBARRED O;cPHI;cS WITH HOOK
1DB4;MODIFIER LETTER SMALL ESH;cT WITH PALATAL HOOK;cU BAR;cUPSILON;cCAPITAL U;cV WITH HOOK
1DBA;MODIFIER LETTER SMALL TURNED V;cZ;dWITH RETROFLEX HOOK;eCURL;cEZH;cTHETA
1DC0;COMBINING DOTTED GRAVE ACCENT;bACUTE ACCENT;aSNAKE BELOW;aSUSPENSION MARK;aMACRON-ACUTE
1DC5;COMBINING GRAVE-MACRON;aMACRON-GRAVE;aACUTE-MACRON;aGRAVE-ACUTE-GRAVE;aACUTE-GRAVE-ACUTE
1DCA;COMBINING LATIN SMALL LETTER R BELOW;aBREVE-MACRON;aMACRON-BREVE;aDOUBLE CIRCUMFLEX ABOVE
1DCE;COMBINING OGONEK ABOVE;aZIGZAG BELOW;aIS BELOW;aUR ABOVE;aUS ABOVE
1DD3;COMBINING LATIN SMALL LETTER FLATTENED OPEN A ABOVE;dAE;dAO;dAV;dC CEDILLA;dINSULAR D;dETH;dG
1DDB;COMBINING LATIN LETTER SMALL CAPITAL G;bSMALL LETTER K;dL;bLETTER SMALL CAPITAL L;eM
1DE0;COMBINING LATIN SMALL LETTER N;bLETTER SMALL CAPITAL N;eR;bSMALL LETTER R ROTUNDA;dS;dLONG S
1DE6;COMBINING LATIN SMALL LETTER Z;dALPHA;dB;dBETA;dSCHWA;dF;dL WITH DOUBLE MIDDLE TILDE
1DED;COMBINING LATIN SMALL LETTER O WITH LIGHT CENTRALIZATION STROKE;dP;dESH
1DF0;COMBINING LATIN SMALL LETTER U WITH LIGHT CENTRALIZATION STROKE;dW;dA WITH DIAERESIS
1DF3;COMBINING LATIN SMALL LETTER O WITH DIAERESIS;dU WITH DIAERESIS;aUP TACK ABOVE
1DF6;COMBINING KAVYKA ABOVE RIGHT;cLEFT;aDOT ABOVE LEFT;aWIDE INVERTED BRIDGE BELOW
1DFA;COMBINING DOT BELOW LEFT;aDELETION MARK;aDOUBLE INVERTED BREVE BELOW;aALMOST EQUAL TO BELOW
1DFE;COMBINING LEFT ARROWHEAD ABOVE;aRIGHT ARROWHEAD AND DOWN ARROWHEAD BELOW
1E00;LATIN CAPITAL LETTER A WITH RING BELOW;aSMALL LETTER A WITH RING BELOW
1E02;LATIN CAPITAL LETTER B WITH DOT ABOVE;aSMALL LETTER B WITH DOT ABOVE
1E04;LATIN CAPITAL LETTER B WITH DOT BELOW;aSMALL LETTER B WITH DOT BELOW
1E06;LATIN CAPITAL LETTER B WITH LINE BELOW;aSMALL LETTER B WITH LINE BELOW
1E08;LATIN CAPITAL LETTER C WITH CEDILLA AND ACUTE;aSMALL LETTER C WITH CEDILLA AND ACUTE
1E0A;LATIN CAPITAL LETTER D WITH DOT ABOVE;aSMALL LETTER D WITH DOT ABOVE
1E0C;LATIN CAPITAL LETTER D WITH DOT BELOW;aSMALL LETTER D WITH DOT BELOW
1E0E;LATIN CAPITAL LETTER D WITH LINE BELOW;aSMALL LETTER D WITH LINE BELOW
1E10;LATIN CAPITAL LETTER D WITH CEDILLA;aSMALL LETTER D WITH CEDILLA
1E12;LATIN CAPITAL LETTER D WITH CIRCUMFLEX BELOW;aSMALL LETTER D WITH CIRCUMFLEX BELOW
1E14;LATIN CAPITAL LETTER E WITH MACRON AND GRAVE;aSMALL LETTER E WITH MACRON AND GRAVE
1E16;LATIN CAPITAL LETTER E WITH MACRON AND ACUTE;aSMALL LETTER E WITH MACRON AND ACUTE
1E18;LATIN CAPITAL LETTER E WITH CIRCUMFLEX BELOW;aSMALL LETTER E WITH CIRCUMFLEX BELOW
1E1A;LATIN CAPITAL LETTER E WITH TILDE BELOW;aSMALL LETTER E WITH TILDE BELOW
1E1C;LATIN CAPITAL LETTER E WITH CEDILLA AND BREVE;aSMALL LETTER E WITH CEDILLA AND BREVE
1E1E;LATIN CAPITAL LETTER F WITH DOT ABOVE;aSMALL LETTER F WITH DOT ABOVE
1E20;LATIN CAPITAL LETTER G WITH MACRON;aSMALL LETTER G WITH MACRON
1E22;LATIN CAPITAL LETTER H WITH DOT ABOVE;aSMALL LETTER H WITH DOT ABOVE
1E24;LATIN CAPITAL LETTER H WITH DOT BELOW;aSMALL LETTER H WITH DOT BELOW
1E26;LATIN CAPITAL LETTER H WITH DIAERESIS;aSMALL LETTER H WITH DIAERESIS
1E28;LATIN CAPITAL LETTER H WITH CEDILLA;aSMALL LETTER H WITH CEDILLA
1E2A;LATIN CAPITAL LETTER H WITH BREVE BELOW;aSMALL LETTER H WITH BREVE BELOW
1E2C;LATIN CAPITAL LETTER I WITH TILDE BELOW;aSMALL LETTER I WITH TILDE BELOW
1E2E;LATIN CAPITAL LETTER I WITH DIAERESIS AND ACUTE;aSMALL LETTER I WITH DIAERESIS AND ACUTE
1E30;LATIN CAPITAL LETTER K WITH ACUTE;aSMALL LETTER K WITH ACUTE;aCAPITAL LETTER K WITH DOT BELOW
1E33;LATIN SMALL LETTER K WITH DOT BELOW;aCAPITAL LETTER K WITH LINE BELOW
1E35;LATIN SMALL LETTER K WITH LINE BELOW;aCAPITAL LETTER L WITH DOT BELOW
1E37;LATIN SMALL LETTER L WITH DOT BELOW;aCAPITAL LETTER L WITH DOT BELOW AND MACRON
1E39;LATIN SMALL LETTER L WITH DOT BELOW AND MACRON;aCAPITAL LETTER L WITH LINE BELOW
1E3B;LATIN SMALL LETTER L WITH LINE BELOW;aCAPITAL LETTER L WITH CIRCUMFLEX BELOW
1E3D;LATIN SMALL LETTER L WITH CIRCUMFLEX BELOW;aCAPITAL LETTER M WITH ACUTE
1E3F;LATIN SMALL LETTER M WITH ACUTE;aCAPITAL LETTER M WITH DOT ABOVE
1E41;LATIN SMALL LETTER M WITH DOT ABOVE;aCAPITAL LETTER M WITH DOT BELOW
1E43;LATIN SMALL LETTER M WITH DOT BELOW;aCAPITAL LETTER N WITH DOT ABOVE
1E45;LATIN SMALL LETTER N WITH DOT ABOVE;aCAPITAL LETTER N WITH DOT BELOW
1E47;LATIN SMALL LETTER N WITH DOT BELOW;aCAPITAL LETTER N WITH LINE BELOW
1E49;LATIN SMALL LETTER N WITH LINE BELOW;aCAPITAL LETTER N WITH CIRCUMFLEX BELOW
1E4B;LATIN SMALL LETTER N WITH CIRCUMFLEX BELOW;aCAPITAL LETTER O WITH TILDE AND ACUTE
1E4D;LATIN SMALL LETTER O WITH TILDE AND ACUTE;aCAPITAL LETTER O WITH TILDE AND DIAERESIS
1E4F;LATIN SMALL LETTER O WITH TILDE AND DIAERESIS;aCAPITAL LETTER O WITH MACRON AND GRAVE
1E51;LATIN SMALL LETTER O WITH MACRON AND GRAVE;aCAPITAL LETTER O WITH MACRON AND ACUTE
1E53;LATIN SMALL LETTER O WITH MACRON AND ACUTE;aCAPITAL LETTER P WITH ACUTE
1E55;LATIN SMALL LETTER P WITH ACUTE;aCAPITAL LETTER P WITH DOT ABOVE
1E57;LATIN SMALL LETTER P WITH DOT ABOVE;aCAPITAL LETTER R WITH DOT ABOVE
1E59;LATIN SMALL LETTER R WITH DOT ABOVE;aCAPITAL LETTER R WITH DOT BELOW
1E5B;LATIN SMALL LETTER R WITH DOT BELOW;aCAPITAL LETTER R WITH DOT BELOW AND MACRON
1E5D;LATIN SMALL LETTER R WITH DOT BELOW AND MACRON;aCAPITAL LETTER R WITH LINE BELOW
1E5F;LATIN SMALL LETTER R WITH LINE BELOW;aCAPITAL LETTER S WITH DOT ABOVE
1E61;LATIN SMALL LETTER S WITH DOT ABOVE;aCAPITAL LETTER S WITH DOT BELOW
1E63;LATIN SMALL LETTER S WITH DOT BELOW;aCAPITAL LETTER S WITH ACUTE AND DOT ABOVE
1E65;LATIN SMALL LETTER S WITH ACUTE AND DOT ABOVE;aCAPITAL LETTER S WITH CARON AND DOT ABOVE
1E67;LATIN SMALL LETTER S WITH CARON AND DOT ABOVE;aCAPITAL LETTER S WITH DOT BELOW AND DOT ABOVE
1E69;LATIN SMALL LETTER S WITH DOT BELOW AND DOT ABOVE;aCAPITAL LETTER T WITH DOT ABOVE
1E6B;LATIN SMALL LETTER T WITH DOT ABOVE;aCAPITAL LETTER T WITH DOT BELOW
1E6D;LATIN SMALL LETTER T WITH DOT BELOW;aCAPITAL LETTER T WITH LINE BELOW
1E6F;LATIN SMALL LETTER T WITH LINE BELOW;aCAPITAL LETTER T WITH CIRCUMFLEX BELOW
1E71;LATIN SMALL LETTER T WITH CIRCUMFLEX BELOW;aCAPITAL LETTER U WITH DIAERESIS BELOW
1E73;LATIN SMALL LETTER U WITH DIAERESIS BELOW;aCAPITAL LETTER U WITH TILDE BELOW
1E75;LATIN SMALL LETTER U WITH TILDE BELOW;aCAPITAL LETTER U WITH CIRCUMFLEX BELOW
1E77;LATIN SMALL LETTER U WITH CIRCUMFLEX BELOW;aCAPITAL LETTER U WITH TILDE AND ACUTE
1E79;LATIN SMALL LETTER U WITH TILDE AND ACUTE;aCAPITAL LETTER U WITH MACRON AND DIAERESIS
1E7B;LATIN SMALL LETTER U WITH MACRON AND DIAERESIS;aCAPITAL LETTER V WITH TILDE
1E7D;LATIN SMALL LETTER V WITH TILDE;aCAPITAL LETTER V WITH DOT BELOW
1E7F;LATIN SMALL LETTER V WITH DOT BELOW;aCAPITAL LETTER W WITH GRAVE;aSMALL LETTER W WITH GRAVE
1E82;LATIN CAPITAL LETTER W WITH ACUTE;aSMALL LETTER W WITH ACUTE;aCAPITAL LETTER W WITH DIAERESIS
1E85;LATIN SMALL LETTER W WITH DIAERESIS;aCAPITAL LETTER W WITH DOT ABOVE
1E87;LATIN SMALL LETTER W WITH DOT ABOVE;aCAPITAL LETTER W WITH DOT BELOW
1E89;LATIN SMALL LETTER W WITH DOT BELOW;aCAPITAL LETTER X WITH DOT ABOVE
1E8B;LATIN SMALL LETTER X WITH DOT ABOVE;aCAPITAL LETTER X WITH DIAERESIS
1E8D;LATIN SMALL LETTER X WITH DIAERESIS;aCAPITAL LETTER Y WITH DOT ABOVE
1E8F;LATIN SMALL LETTER Y WITH DOT ABOVE;aCAPITAL LETTER Z WITH CIRCUMFLEX
1E91;LATIN SMALL LETTER Z WITH CIRCUMFLEX;aCAPITAL LETTER Z WITH DOT BELOW
1E93;LATIN SMALL LETTER Z WITH DOT BELOW;aCAPITAL LETTER Z WITH LINE BELOW
1E95;LATIN SMALL LETTER Z WITH LINE BELOW;cH WITH LINE BELOW;cT WITH DIAERESIS;cW WITH RING ABOVE
1E99;LATIN SMALL LETTER Y WITH RING ABOVE;cA WITH RIGHT HALF RING;cLONG S WITH DOT ABOVE
1E9C;LATIN SMALL LETTER LONG S WITH DIAGONAL STROKE;fHIGH STROKE;aCAPITAL LETTER SHARP S
1E9F;LATIN SMALL LETTER DELTA;aCAPITAL LETTER A WITH DOT BELOW;aSMALL LETTER A WITH DOT BELOW
1EA2;LATIN CAPITAL LETTER A WITH HOOK ABOVE;aSMALL LETTER A WITH HOOK ABOVE
1EA4;LATIN CAPITAL LETTER A WITH CIRCUMFLEX AND ACUTE;aSMALL LETTER A WITH CIRCUMFLEX AND ACUTE
1EA6;LATIN CAPITAL LETTER A WITH CIRCUMFLEX AND GRAVE;aSMALL LETTER A WITH CIRCUMFLEX AND GRAVE
1EA8;LATIN CAPITAL LETTER A WITH CIRCUMFLEX AND HOOK ABOVE
1EA9;LATIN SMALL LETTER A WITH CIRCUMFLEX AND HOOK ABOVE
1EAA;LATIN CAPITAL LETTER A WITH CIRCUMFLEX AND TILDE;aSMALL LETTER A WITH CIRCUMFLEX AND TILDE
1EAC;LATIN CAPITAL LETTER A WITH CIRCUMFLEX AND DOT BELOW
1EAD;LATIN SMALL LETTER A WITH CIRCUMFLEX AND DOT BELOW;aCAPITAL LETTER A WITH BREVE AND ACUTE
1EAF;LATIN SMALL LETTER A WITH BREVE AND ACUTE;aCAPITAL LETTER A WITH BREVE AND GRAVE
1EB1;LATIN SMALL LETTER A WITH BREVE AND GRAVE;aCAPITAL LETTER A WITH BREVE AND HOOK ABOVE
1EB3;LATIN SMALL LETTER A WITH BREVE AND HOOK ABOVE;aCAPITAL LETTER A WITH BREVE AND TILDE
1EB5;LATIN SMALL LETTER A WITH BREVE AND TILDE;aCAPITAL LETTER A WITH BREVE AND DOT BELOW
1EB7;LATIN SMALL LETTER A WITH BREVE AND DOT BELOW;aCAPITAL LETTER E WITH DOT BELOW
1EB9;LATIN SMALL LETTER E WITH DOT BELOW;aCAPITAL LETTER E WITH HOOK ABOVE
1EBB;LATIN SMALL LETTER E WITH HOOK ABOVE;aCAPITAL LETTER E WITH TILDE;aSMALL LETTER E WITH TILDE
1EBE;LATIN CAPITAL LETTER E WITH CIRCUMFLEX AND ACUTE;aSMALL LETTER E WITH CIRCUMFLEX AND ACUTE
1EC0;LATIN CAPITAL LETTER E WITH CIRCUMFLEX AND GRAVE;aSMALL LETTER E WITH CIRCUMFLEX AND GRAVE
1EC2;LATIN CAPITAL LETTER E WITH CIRCUMFLEX AND HOOK ABOVE
1EC3;LATIN SMALL LETTER E WITH CIRCUMFLEX AND HOOK ABOVE
1EC4;LATIN CAPITAL LETTER E WITH CIRCUMFLEX AND TILDE;aSMALL LETTER E WITH CIRCUMFLEX AND TILDE
1EC6;LATIN CAPITAL LETTER E WITH CIRCUMFLEX AND DOT BELOW
1EC7;LATIN SMALL LETTER E WITH CIRCUMFLEX AND DOT BELOW;aCAPITAL LETTER I WITH HOOK ABOVE
1EC9;LATIN SMALL LETTER I WITH HOOK ABOVE;aCAPITAL LETTER I WITH DOT BELOW
1ECB;LATIN SMALL LETTER I WITH DOT BELOW;aCAPITAL LETTER O WITH DOT BELOW
1ECD;LATIN SMALL LETTER O WITH DOT BELOW;aCAPITAL LETTER O WITH HOOK ABOVE
1ECF;LATIN SMALL LETTER O WITH HOOK ABOVE;aCAPITAL LETTER O WITH CIRCUMFLEX AND ACUTE
1ED1;LATIN SMALL LETTER O WITH CIRCUMFLEX AND ACUTE;aCAPITAL LETTER O WITH CIRCUMFLEX AND GRAVE
1ED3;LATIN SMALL LETTER O WITH CIRCUMFLEX AND GRAVE
1ED4;LATIN CAPITAL LETTER O WITH CIRCUMFLEX AND HOOK ABOVE
1ED5;LATIN SMALL LETTER O WITH CIRCUMFLEX AND HOOK ABOVE
1ED6;LATIN CAPITAL LETTER O WITH CIRCUMFLEX AND TILDE;aSMALL LETTER O WITH CIRCUMFLEX AND TILDE
1ED8;LATIN CAPITAL LETTER O WITH CIRCUMFLEX AND DOT BELOW
1ED9;LATIN SMALL LETTER O WITH CIRCUMFLEX AND DOT BELOW;aCAPITAL LETTER O WITH HORN AND ACUTE
1EDB;LATIN SMALL LETTER O WITH HORN AND ACUTE;aCAPITAL LETTER O WITH HORN AND GRAVE
1EDD;LATIN SMALL LETTER O WITH HORN AND GRAVE;aCAPITAL LETTER O WITH HORN AND HOOK ABOVE
1EDF;LATIN SMALL LETTER O WITH HORN AND HOOK ABOVE;aCAPITAL LETTER O WITH HORN AND TILDE
1EE1;LATIN SMALL LETTER O WITH HORN AND TILDE;aCAPITAL LETTER O WITH HORN AND DOT BELOW
1EE3;LATIN SMALL LETTER O WITH HORN AND DOT BELOW;aCAPITAL LETTER U WITH DOT BELOW
1EE5;LATIN SMALL LETTER U WITH DOT BELOW;aCAPITAL LETTER U WITH HOOK ABOVE
1EE7;LATIN SMALL LETTER U WITH HOOK ABOVE;aCAPITAL LETTER U WITH HORN AND ACUTE
1EE9;LATIN SMALL LETTER U WITH HORN AND ACUTE;aCAPITAL LETTER U WITH HORN AND GRAVE
1EEB;LATIN SMALL LETTER U WITH HORN AND GRAVE;aCAPITAL LETTER U WITH HORN AND HOOK ABOVE
1EED;LATIN SMALL LETTER U WITH HORN AND HOOK ABOVE;aCAPITAL LETTER U WITH HORN AND TILDE
1EEF;LATIN SMALL LETTER U WITH HORN AND TILDE;aCAPITAL LETTER U WITH HORN AND DOT BELOW
1EF1;LATIN SMALL LETTER U WITH HORN AND DOT BELOW;aCAPITAL LETTER Y WITH GRAVE
1EF3;LATIN SMALL LETTER Y WITH GRAVE;aCAPITAL LETTER Y WITH DOT BELOW
1EF5;LATIN SMALL LETTER Y WITH DOT BELOW;aCAPITAL LETTER Y WITH HOOK ABOVE
1EF7;LATIN SMALL LETTER Y WITH HOOK ABOVE;aCAPITAL LETTER Y WITH TILDE;aSMALL LETTER Y WITH TILDE
1EFA;LATIN CAPITAL LETTER MIDDLE-WELSH LL;aSMALL LETTER MIDDLE-WELSH LL
1EFC;LATIN CAPITAL LETTER MIDDLE-WELSH V;aSMALL LETTER MIDDLE-WELSH V;aCAPITAL LETTER Y WITH LOOP
1EFF;LATIN SMALL LETTER Y WITH LOOP;GREEK SMALL LETTER ALPHA WITH PSILI;eDASIA;ePSILI AND VARIA
1F03;GREEK SMALL LETTER ALPHA WITH DASIA AND VARIA;ePSILI AND OXIA;eDASIA AND OXIA
1F06;GREEK SMALL LETTER ALPHA WITH PSILI AND PERISPOMENI;eDASIA AND PERISPOMENI
1F08;GREEK CAPITAL LETTER ALPHA WITH PSILI;eDASIA;ePSILI AND VARIA;eDASIA AND VARIA
1F0C;GREEK CAPITAL LETTER ALPHA WITH PSILI AND OXIA;eDASIA AND OXIA;ePSILI AND PERISPOMENI
1F0F;GREEK CAPITAL LETTER ALPHA WITH DASIA AND PERISPOMENI;aSMALL LETTER EPSILON WITH PSILI;eDASIA
1F12;GREEK SMALL LETTER EPSILON WITH PSILI AND VARIA;eDASIA AND VARIA;ePSILI AND OXIA
1F15;GREEK SMALL LETTER EPSILON WITH DASIA AND OXIA
1F18;GREEK CAPITAL LETTER EPSILON WITH PSILI;eDASIA;ePSILI AND VARIA;eDASIA AND VARIA
1F1C;GREEK CAPITAL LETTER EPSILON WITH PSILI AND OXIA;eDASIA AND OXIA
1F20;GREEK SMALL LETTER ETA WITH PSILI;eDASIA;ePSILI AND VARIA;eDASIA AND VARIA;ePSILI AND OXIA
1F25;GREEK SMALL LETTER ETA WITH DASIA AND OXIA;ePSILI AND PERISPOMENI;eDASIA AND PERISPOMENI
1F28;GREEK CAPITAL LETTER ETA WITH PSILI;eDASIA;ePSILI AND VARIA;eDASIA AND VARIA;ePSILI AND OXIA
1F2D;GREEK CAPITAL LETTER ETA WITH DASIA AND OXIA;ePSILI AND PERISPOMENI;eDASIA AND PERISPOMENI
1F30;GREEK SMALL LETTER IOTA WITH PSILI;eDASIA;ePSILI AND VARIA;eDASIA AND VARIA;ePSILI AND OXIA
1F35;GREEK SMALL LETTER IOTA WITH DASIA AND OXIA;ePSILI AND PERISPOMENI;eDASIA AND PERISPOMENI
1F38;GREEK CAPITAL LETTER IOTA WITH PSILI;eDASIA;ePSILI AND VARIA;eDASIA AND VARIA;ePSILI AND OXIA
1F3D;GREEK CAPITAL LETTER IOTA WITH DASIA AND OXIA;ePSILI AND PERISPOMENI;eDASIA AND PERISPOMENI
1F40;GREEK SMALL LETTER OMICRON WITH PSILI;eDASIA;ePSILI AND VARIA;eDASIA AND VARIA
1F44;GREEK SMALL LETTER OMICRON WITH PSILI AND OXIA;eDASIA AND OXIA
1F48;GREEK CAPITAL LETTER OMICRON WITH PSILI;eDASIA;ePSILI AND VARIA;eDASIA AND VARIA
1F4C;GREEK CAPITAL LETTER OMICRON WITH PSILI AND OXIA;eDASIA AND OXIA
1F50;GREEK SMALL LETTER UPSILON WITH PSILI;eDASIA;ePSILI AND VARIA;eDASIA AND VARIA
1F54;GREEK SMALL LETTER UPSILON WITH PSILI AND OXIA;eDASIA AND OXIA;ePSILI AND PERISPOMENI
1F57;GREEK SMALL LETTER UPSILON WITH DASIA AND PERISPOMENI
1F59;GREEK CAPITAL LETTER UPSILON WITH DASIA
1F5B;GREEK CAPITAL LETTER UPSILON WITH DASIA AND VARIA
1F5D;GREEK CAPITAL LETTER UPSILON WITH DASIA AND OXIA
1F5F;GREEK CAPITAL LETTER UPSILON WITH DASIA AND PERISPOMENI;aSMALL LETTER OMEGA WITH PSILI;eDASIA
1F62;GREEK SMALL LETTER OMEGA WITH PSILI AND VARIA;eDASIA AND VARIA;ePSILI AND OXIA
1F65;GREEK SMALL LETTER OMEGA WITH DASIA AND OXIA;ePSILI AND PERISPOMENI;eDASIA AND PERISPOMENI
1F68;GREEK CAPITAL LETTER OMEGA WITH PSILI;eDASIA;ePSILI AND VARIA;eDASIA AND VARIA
1F6C;GREEK CAPITAL LETTER OMEGA WITH PSILI AND OXIA;eDASIA AND OXIA;ePSILI AND PERISPOMENI
1F6F;GREEK CAPITAL LETTER OMEGA WITH DASIA AND PERISPOMENI;aSMALL LETTER ALPHA WITH VARIA;eOXIA
1F72;GREEK SMALL LETTER EPSILON WITH VARIA;eOXIA;cETA WITH VARIA;eOXIA;cIOTA WITH VARIA;eOXIA
1F78;GREEK SMALL LETTER OMICRON WITH VARIA;eOXIA;cUPSILON WITH VARIA;eOXIA;cOMEGA WITH VARIA;eOXIA
1F80;GREEK SMALL LETTER ALPHA WITH PSILI AND YPOGEGRAMMENI;eDASIA AND YPOGEGRAMMENI
1F82;GREEK SMALL LETTER ALPHA WITH PSILI AND VARIA AND YPOGEGRAMMENI
1F83;GREEK SMALL LETTER ALPHA WITH DASIA AND VARIA AND YPOGEGRAMMENI
1F84;GREEK SMALL LETTER ALPHA WITH PSILI AND OXIA AND YPOGEGRAMMENI
1F85;GREEK SMALL LETTER ALPHA WITH DASIA AND OXIA AND YPOGEGRAMMENI
1F86;GREEK SMALL LETTER ALPHA WITH PSILI AND PERISPOMENI AND YPOGEGRAMMENI
1F87;GREEK SMALL LETTER ALPHA WITH DASIA AND PERISPOMENI AND YPOGEGRAMMENI
1F88;GREEK CAPITAL LETTER ALPHA WITH PSILI AND PROSGEGRAMMENI;eDASIA AND PROSGEGRAMMENI
1F8A;GREEK CAPITAL LETTER ALPHA WITH PSILI AND VARIA AND PROSGEGRAMMENI
1F8B;GREEK CAPITAL LETTER ALPHA WITH DASIA AND VARIA AND PROSGEGRAMMENI
1F8C;GREEK CAPITAL LETTER ALPHA WITH PSILI AND OXIA AND PROSGEGRAMMENI
1F8D;GREEK CAPITAL LETTER ALPHA WITH DASIA AND OXIA AND PROSGEGRAMMENI
1F8E;GREEK CAPITAL LETTER ALPHA WITH PSILI AND PERISPOMENI AND PROSGEGRAMMENI
1F8F;GREEK CAPITAL LETTER ALPHA WITH DASIA AND PERISPOMENI AND PROSGEGRAMMENI
1F90;GREEK SMALL LETTER ETA WITH PSILI AND YPOGEGRAMMENI;eDASIA AND YPOGEGRAMMENI
1F92;GREEK SMALL LETTER ETA WITH PSILI AND VARIA AND YPOGEGRAMMENI
1F93;GREEK SMALL LETTER ETA WITH DASIA AND VARIA AND YPOGEGRAMMENI
1F94;GREEK SMALL LETTER ETA WITH PSILI AND OXIA AND YPOGEGRAMMENI
1F95;GREEK SMALL LETTER ETA WITH DASIA AND OXIA AND YPOGEGRAMMENI
1F96;GREEK SMALL LETTER ETA WITH PSILI AND PERISPOMENI AND YPOGEGRAMMENI
1F97;GREEK SMALL LETTER ETA WITH DASIA AND PERISPOMENI AND YPOGEGRAMMENI
1F98;GREEK CAPITAL LETTER ETA WITH PSILI AND PROSGEGRAMMENI;eDASIA AND PROSGEGRAMMENI
1F9A;GREEK CAPITAL LETTER ETA WITH PSILI AND VARIA AND PROSGEGRAMMENI
1F9B;GREEK CAPITAL LETTER ETA WITH DASIA AND VARIA AND PROSGEGRAMMENI
1F9C;GREEK CAPITAL LETTER ETA WITH PSILI AND OXIA AND PROSGEGRAMMENI
1F9D;GREEK CAPITAL LETTER ETA WITH DASIA AND OXIA AND PROSGEGRAMMENI
1F9E;GREEK CAPITAL LETTER ETA WITH PSILI AND PERISPOMENI AND PROSGEGRAMMENI
1F9F;GREEK CAPITAL LETTER ETA WITH DASIA AND PERISPOMENI AND PROSGEGRAMMENI
1FA0;GREEK SMALL LETTER OMEGA WITH PSILI AND YPOGEGRAMMENI;eDASIA AND YPOGEGRAMMENI
1FA2;GREEK SMALL LETTER OMEGA WITH PSILI AND VARIA AND YPOGEGRAMMENI
1FA3;GREEK SMALL LETTER OMEGA WITH DASIA AND VARIA AND YPOGEGRAMMENI
1FA4;GREEK SMALL LETTER OMEGA WITH PSILI AND OXIA AND YPOGEGRAMMENI
1FA5;GREEK SMALL LETTER OMEGA WITH DASIA AND OXIA AND YPOGEGRAMMENI
1FA6;GREEK SMALL LETTER OMEGA WITH PSILI AND PERISPOMENI AND YPOGEGRAMMENI
1FA7;GREEK SMALL LETTER OMEGA WITH DASIA AND PERISPOMENI AND YPOGEGRAMMENI
1FA8;GREEK CAPITAL LETTER OMEGA WITH PSILI AND PROSGEGRAMMENI;eDASIA AND PROSGEGRAMMENI
1FAA;GREEK CAPITAL LETTER OMEGA WITH PSILI AND VARIA AND PROSGEGRAMMENI
1FAB;GREEK CAPITAL LETTER OMEGA WITH DASIA AND VARIA AND PROSGEGRAMMENI
1FAC;GREEK CAPITAL LETTER OMEGA WITH PSILI AND OXIA AND PROSGEGRAMMENI
1FAD;GREEK CAPITAL LETTER OMEGA WITH DASIA AND OXIA AND PROSGEGRAMMENI
1FAE;GREEK CAPITAL LETTER OMEGA WITH PSILI AND PERISPOMENI AND PROSGEGRAMMENI
1FAF;GREEK CAPITAL LETTER OMEGA WITH DASIA AND PERISPOMENI AND PROSGEGRAMMENI
1FB0;GREEK SMALL LETTER ALPHA WITH VRACHY;eMACRON;eVARIA AND YPOGEGRAMMENI;eYPOGEGRAMMENI
1FB4;GREEK SMALL LETTER ALPHA WITH OXIA AND YPOGEGRAMMENI
1FB6;GREEK SMALL LETTER ALPHA WITH PERISPOMENI;fAND YPOGEGRAMMENI
1FB8;GREEK CAPITAL LETTER ALPHA WITH VRACHY;eMACRON;eVARIA;eOXIA;ePROSGEGRAMMENI;aKORONIS
1FBE;GREEK PROSGEGRAMMENI;aPSILI;aPERISPOMENI;aDIALYTIKA AND PERISPOMENI
1FC2;GREEK SMALL LETTER ETA WITH VARIA AND YPOGEGRAMMENI;eYPOGEGRAMMENI;eOXIA AND YPOGEGRAMMENI
1FC6;GREEK SMALL LETTER ETA WITH PERISPOMENI;fAND YPOGEGRAMMENI;aCAPITAL LETTER EPSILON WITH VARIA
1FC9;GREEK CAPITAL LETTER EPSILON WITH OXIA;cETA WITH VARIA;eOXIA;ePROSGEGRAMMENI;aPSILI AND VARIA
1FCE;GREEK PSILI AND OXIA;cPERISPOMENI;aSMALL LETTER IOTA WITH VRACHY;eMACRON;eDIALYTIKA AND VARIA
1FD3;GREEK SMALL LETTER IOTA WITH DIALYTIKA AND OXIA
1FD6;GREEK SMALL LETTER IOTA WITH PERISPOMENI;eDIALYTIKA AND PERISPOMENI
1FD8;GREEK CAPITAL LETTER IOTA WITH VRACHY;eMACRON;eVARIA;eOXIA
1FDD;GREEK DASIA AND VARIA;cOXIA;cPERISPOMENI;aSMALL LETTER UPSILON WITH VRACHY;eMACRON
1FE2;GREEK SMALL LETTER UPSILON WITH DIALYTIKA AND VARIA;gOXIA;cRHO WITH PSILI;eDASIA
1FE6;GREEK SMALL LETTER UPSILON WITH PERISPOMENI;eDIALYTIKA AND PERISPOMENI
1FE8;GREEK CAPITAL LETTER UPSILON WITH VRACHY;eMACRON;eVARIA;eOXIA;cRHO WITH DASIA
1FED;GREEK DIALYTIKA AND VARIA;cOXIA;aVARIA
1FF2;GREEK SMALL LETTER OMEGA WITH VARIA AND YPOGEGRAMMENI;eYPOGEGRAMMENI;eOXIA AND YPOGEGRAMMENI
1FF6;GREEK SMALL LETTER OMEGA WITH PERISPOMENI;fAND YPOGEGRAMMENI
1FF8;GREEK CAPITAL LETTER OMICRON WITH VARIA;eOXIA;cOMEGA WITH VARIA;eOXIA;ePROSGEGRAMMENI;aOXIA
1FFE;GREEK DASIA"

end RecordSchema.Text.CharacterName
