/-! Names of the characters of East Asia and of what follows them in the first plane. -/

namespace RecordSchema.Text.CharacterName

def eastAsia : String := "2E80;CJK RADICAL REPEAT;bCLIFF;bSECOND ONE;cTWO;cTHREE;bPERSON;bBOX;bTABLE;bKNIFE ONE;cTWO
2E8A;CJK RADICAL DIVINATION;bSEAL;bSMALL ONE;cTWO;bLAME ONE;cTWO;cTHREE;cFOUR;bSNAKE;bTHREAD
2E94;CJK RADICAL SNOUT ONE;cTWO;bHEART ONE;cTWO;bHAND;bRAP
2E9B;CJK RADICAL CHOKE;bSUN;bMOON;bDEATH;bMOTHER;bCIVILIAN;bWATER ONE;cTWO;bFIRE;bPAW ONE;cTWO
2EA6;CJK RADICAL SIMPLIFIED HALF TREE TRUNK;bCOW;bDOG;bJADE;bBOLT OF CLOTH;bEYE;bSPIRIT ONE;cTWO
2EAE;CJK RADICAL BAMBOO;bSILK;bC-SIMPLIFIED SILK;bNET ONE;cTWO;cTHREE;cFOUR;bMESH;bSHEEP;bRAM;bEWE
2EB9;CJK RADICAL OLD;bBRUSH ONE;cTWO;bMEAT;bMORTAR;bGRASS ONE;cTWO;cTHREE;bTIGER;bCLOTHES
2EC3;CJK RADICAL WEST ONE;cTWO;bC-SIMPLIFIED SEE;bSIMPLIFIED HORN;bHORN;bC-SIMPLIFIED SPEECH
2EC9;CJK RADICAL C-SIMPLIFIED SHELL;bFOOT;bC-SIMPLIFIED CART;bSIMPLIFIED WALK;bWALK ONE;cTWO;bCITY
2ED0;CJK RADICAL C-SIMPLIFIED GOLD;bLONG ONE;cTWO;bC-SIMPLIFIED LONG;cGATE;bMOUND ONE;cTWO;bRAIN
2ED8;CJK RADICAL BLUE;bC-SIMPLIFIED TANNED LEATHER;cLEAF;cWIND;cFLY;bEAT ONE;cTWO;cTHREE
2EE0;CJK RADICAL C-SIMPLIFIED EAT;bHEAD;bC-SIMPLIFIED HORSE;bBONE;bGHOST;bC-SIMPLIFIED FISH;cBIRD
2EE7;CJK RADICAL C-SIMPLIFIED SALT;bSIMPLIFIED WHEAT;cYELLOW;bC-SIMPLIFIED FROG;bJ-SIMPLIFIED EVEN
2EEC;CJK RADICAL C-SIMPLIFIED EVEN;bJ-SIMPLIFIED TOOTH;bC-SIMPLIFIED TOOTH;bJ-SIMPLIFIED DRAGON
2EF0;CJK RADICAL C-SIMPLIFIED DRAGON;bTURTLE;bJ-SIMPLIFIED TURTLE;bC-SIMPLIFIED TURTLE
2F00;KANGXI RADICAL ONE;bLINE;bDOT;bSLASH;bSECOND;bHOOK;bTWO;bLID;bMAN;bLEGS;bENTER;bEIGHT
2F0C;KANGXI RADICAL DOWN BOX;bCOVER;bICE;bTABLE;bOPEN BOX;bKNIFE;bPOWER;bWRAP;bSPOON
2F15;KANGXI RADICAL RIGHT OPEN BOX;bHIDING ENCLOSURE;bTEN;bDIVINATION;bSEAL;bCLIFF;bPRIVATE;bAGAIN
2F1D;KANGXI RADICAL MOUTH;bENCLOSURE;bEARTH;bSCHOLAR;bGO;cSLOWLY;bEVENING;bBIG;bWOMAN;bCHILD;bROOF
2F28;KANGXI RADICAL INCH;bSMALL;bLAME;bCORPSE;bSPROUT;bMOUNTAIN;bRIVER;bWORK;bONESELF;bTURBAN;bDRY
2F33;KANGXI RADICAL SHORT THREAD;bDOTTED CLIFF;bLONG STRIDE;bTWO HANDS;bSHOOT;bBOW;bSNOUT;bBRISTLE
2F3B;KANGXI RADICAL STEP;bHEART;bHALBERD;bDOOR;bHAND;bBRANCH;bRAP;bSCRIPT;bDIPPER;bAXE;bSQUARE
2F46;KANGXI RADICAL NOT;bSUN;bSAY;bMOON;bTREE;bLACK;bSTOP;bDEATH;bWEAPON;bDO NOT;bCOMPARE;bFUR
2F52;KANGXI RADICAL CLAN;bSTEAM;bWATER;bFIRE;bCLAW;bFATHER;bDOUBLE X;bHALF TREE TRUNK;bSLICE;bFANG
2F5C;KANGXI RADICAL COW;bDOG;bPROFOUND;bJADE;bMELON;bTILE;bSWEET;bLIFE;bUSE;bFIELD;bBOLT OF CLOTH
2F67;KANGXI RADICAL SICKNESS;bDOTTED TENT;bWHITE;bSKIN;bDISH;bEYE;bSPEAR;bARROW;bSTONE;bSPIRIT
2F71;KANGXI RADICAL TRACK;bGRAIN;bCAVE;bSTAND;bBAMBOO;bRICE;bSILK;bJAR;bNET;bSHEEP;bFEATHER;bOLD
2F7D;KANGXI RADICAL AND;bPLOW;bEAR;bBRUSH;bMEAT;bMINISTER;bSELF;bARRIVE;bMORTAR;bTONGUE;bOPPOSE
2F88;KANGXI RADICAL BOAT;bSTOPPING;bCOLOR;bGRASS;bTIGER;bINSECT;bBLOOD;bWALK ENCLOSURE;bCLOTHES
2F91;KANGXI RADICAL WEST;bSEE;bHORN;bSPEECH;bVALLEY;bBEAN;bPIG;bBADGER;bSHELL;bRED;bRUN;bFOOT
2F9D;KANGXI RADICAL BODY;bCART;bBITTER;bMORNING;bWALK;bCITY;bWINE;bDISTINGUISH;bVILLAGE;bGOLD
2FA7;KANGXI RADICAL LONG;bGATE;bMOUND;bSLAVE;bSHORT TAILED BIRD;bRAIN;bBLUE;bWRONG;bFACE;bLEATHER
2FB1;KANGXI RADICAL TANNED LEATHER;bLEEK;bSOUND;bLEAF;bWIND;bFLY;bEAT;bHEAD;bFRAGRANT;bHORSE;bBONE
2FBC;KANGXI RADICAL TALL;bHAIR;bFIGHT;bSACRIFICIAL WINE;bCAULDRON;bGHOST;bFISH;bBIRD;bSALT;bDEER
2FC6;KANGXI RADICAL WHEAT;bHEMP;bYELLOW;bMILLET;bBLACK;bEMBROIDERY;bFROG;bTRIPOD;bDRUM;bRAT;bNOSE
2FD1;KANGXI RADICAL EVEN;bTOOTH;bDRAGON;bTURTLE;bFLUTE
2FF0;IDEOGRAPHIC DESCRIPTION CHARACTER LEFT TO RIGHT;cABOVE TO BELOW;cLEFT TO MIDDLE AND RIGHT
2FF3;IDEOGRAPHIC DESCRIPTION CHARACTER ABOVE TO MIDDLE AND BELOW;cFULL SURROUND
2FF5;IDEOGRAPHIC DESCRIPTION CHARACTER SURROUND FROM ABOVE;eBELOW;eLEFT;eUPPER LEFT;fRIGHT
2FFA;IDEOGRAPHIC DESCRIPTION CHARACTER SURROUND FROM LOWER LEFT;cOVERLAID
3000;IDEOGRAPHIC SPACE;aCOMMA;aFULL STOP;DITTO MARK;JAPANESE INDUSTRIAL STANDARD SYMBOL
3005;IDEOGRAPHIC ITERATION MARK;aCLOSING MARK;aNUMBER ZERO;LEFT ANGLE BRACKET;RIGHT ANGLE BRACKET
300A;LEFT DOUBLE ANGLE BRACKET;RIGHT DOUBLE ANGLE BRACKET;LEFT CORNER BRACKET;RIGHT CORNER BRACKET
300E;LEFT WHITE CORNER BRACKET;RIGHT WHITE CORNER BRACKET;LEFT BLACK LENTICULAR BRACKET
3011;RIGHT BLACK LENTICULAR BRACKET;POSTAL MARK;GETA MARK;LEFT TORTOISE SHELL BRACKET
3015;RIGHT TORTOISE SHELL BRACKET;LEFT WHITE LENTICULAR BRACKET;RIGHT WHITE LENTICULAR BRACKET
3018;LEFT WHITE TORTOISE SHELL BRACKET;RIGHT WHITE TORTOISE SHELL BRACKET
301A;LEFT WHITE SQUARE BRACKET;RIGHT WHITE SQUARE BRACKET;WAVE DASH
301D;REVERSED DOUBLE PRIME QUOTATION MARK;DOUBLE PRIME QUOTATION MARK
301F;LOW DOUBLE PRIME QUOTATION MARK;POSTAL MARK FACE;HANGZHOU NUMERAL ONE;bTWO;bTHREE;bFOUR;bFIVE
3026;HANGZHOU NUMERAL SIX;bSEVEN;bEIGHT;bNINE;IDEOGRAPHIC LEVEL TONE MARK;aRISING TONE MARK
302C;IDEOGRAPHIC DEPARTING TONE MARK;aENTERING TONE MARK;HANGUL SINGLE DOT TONE MARK
302F;HANGUL DOUBLE DOT TONE MARK;WAVY DASH;VERTICAL KANA REPEAT MARK;cWITH VOICED SOUND MARK
3033;VERTICAL KANA REPEAT MARK UPPER HALF;cWITH VOICED SOUND MARK UPPER HALF;cMARK LOWER HALF
3036;CIRCLED POSTAL MARK;IDEOGRAPHIC TELEGRAPH LINE FEED SEPARATOR SYMBOL;HANGZHOU NUMERAL TEN
3039;HANGZHOU NUMERAL TWENTY;bTHIRTY;VERTICAL IDEOGRAPHIC ITERATION MARK;MASU MARK
303D;PART ALTERNATION MARK;IDEOGRAPHIC VARIATION INDICATOR;aHALF FILL SPACE
3041;HIRAGANA LETTER SMALL A;bA;bSMALL I;bI;bSMALL U;bU;bSMALL E;bE;bSMALL O;bO;bKA;bGA;bKI;bGI
304F;HIRAGANA LETTER KU;bGU;bKE;bGE;bKO;bGO;bSA;bZA;bSI;bZI;bSU;bZU;bSE;bZE;bSO;bZO;bTA;bDA;bTI
3062;HIRAGANA LETTER DI;bSMALL TU;bTU;bDU;bTE;bDE;bTO;bDO;bNA;bNI;bNU;bNE;bNO;bHA;bBA;bPA;bHI;bBI
3074;HIRAGANA LETTER PI;bHU;bBU;bPU;bHE;bBE;bPE;bHO;bBO;bPO;bMA;bMI;bMU;bME;bMO;bSMALL YA;bYA
3085;HIRAGANA LETTER SMALL YU;bYU;bSMALL YO;bYO;bRA;bRI;bRU;bRE;bRO;bSMALL WA;bWA;bWI;bWE;bWO;bN
3094;HIRAGANA LETTER VU;bSMALL KA;cKE
3099;COMBINING KATAKANA-HIRAGANA VOICED SOUND MARK;bSEMI-VOICED SOUND MARK
309B;KATAKANA-HIRAGANA VOICED SOUND MARK;aSEMI-VOICED SOUND MARK;HIRAGANA ITERATION MARK
309E;HIRAGANA VOICED ITERATION MARK;aDIGRAPH YORI;KATAKANA-HIRAGANA DOUBLE HYPHEN
30A1;KATAKANA LETTER SMALL A;bA;bSMALL I;bI;bSMALL U;bU;bSMALL E;bE;bSMALL O;bO;bKA;bGA;bKI;bGI
30AF;KATAKANA LETTER KU;bGU;bKE;bGE;bKO;bGO;bSA;bZA;bSI;bZI;bSU;bZU;bSE;bZE;bSO;bZO;bTA;bDA;bTI
30C2;KATAKANA LETTER DI;bSMALL TU;bTU;bDU;bTE;bDE;bTO;bDO;bNA;bNI;bNU;bNE;bNO;bHA;bBA;bPA;bHI;bBI
30D4;KATAKANA LETTER PI;bHU;bBU;bPU;bHE;bBE;bPE;bHO;bBO;bPO;bMA;bMI;bMU;bME;bMO;bSMALL YA;bYA
30E5;KATAKANA LETTER SMALL YU;bYU;bSMALL YO;bYO;bRA;bRI;bRU;bRE;bRO;bSMALL WA;bWA;bWI;bWE;bWO;bN
30F4;KATAKANA LETTER VU;bSMALL KA;cKE;bVA;bVI;bVE;bVO;aMIDDLE DOT
30FC;KATAKANA-HIRAGANA PROLONGED SOUND MARK;KATAKANA ITERATION MARK;aVOICED ITERATION MARK
30FF;KATAKANA DIGRAPH KOTO
3105;BOPOMOFO LETTER B;bP;bM;bF;bD;bT;bN;bL;bG;bK;bH;bJ;bQ;bX;bZH;bCH;bSH;bR;bZ;bC;bS;bA;bO;bE;bEH
311E;BOPOMOFO LETTER AI;bEI;bAU;bOU;bAN;bEN;bANG;bENG;bER;bI;bU;bIU;bV;bNG;bGN;bIH
312E;BOPOMOFO LETTER O WITH DOT ABOVE;bNN
3131;HANGUL LETTER KIYEOK;bSSANGKIYEOK;bKIYEOK-SIOS;bNIEUN;bNIEUN-CIEUC;bNIEUN-HIEUH;bTIKEUT
3138;HANGUL LETTER SSANGTIKEUT;bRIEUL;bRIEUL-KIYEOK;bRIEUL-MIEUM;bRIEUL-PIEUP;bRIEUL-SIOS
313E;HANGUL LETTER RIEUL-THIEUTH;bRIEUL-PHIEUPH;bRIEUL-HIEUH;bMIEUM;bPIEUP;bSSANGPIEUP;bPIEUP-SIOS
3145;HANGUL LETTER SIOS;bSSANGSIOS;bIEUNG;bCIEUC;bSSANGCIEUC;bCHIEUCH;bKHIEUKH;bTHIEUTH;bPHIEUPH
314E;HANGUL LETTER HIEUH;bA;bAE;bYA;bYAE;bEO;bE;bYEO;bYE;bO;bWA;bWAE;bOE;bYO;bU;bWEO;bWE;bWI;bYU
3161;HANGUL LETTER EU;bYI;bI;aFILLER;aLETTER SSANGNIEUN;bNIEUN-TIKEUT;bNIEUN-SIOS;bNIEUN-PANSIOS
3169;HANGUL LETTER RIEUL-KIYEOK-SIOS;bRIEUL-TIKEUT;bRIEUL-PIEUP-SIOS;bRIEUL-PANSIOS
316D;HANGUL LETTER RIEUL-YEORINHIEUH;bMIEUM-PIEUP;bMIEUM-SIOS;bMIEUM-PANSIOS;bKAPYEOUNMIEUM
3172;HANGUL LETTER PIEUP-KIYEOK;bPIEUP-TIKEUT;bPIEUP-SIOS-KIYEOK;bPIEUP-SIOS-TIKEUT;bPIEUP-CIEUC
3177;HANGUL LETTER PIEUP-THIEUTH;bKAPYEOUNPIEUP;bKAPYEOUNSSANGPIEUP;bSIOS-KIYEOK;bSIOS-NIEUN
317C;HANGUL LETTER SIOS-TIKEUT;bSIOS-PIEUP;bSIOS-CIEUC;bPANSIOS;bSSANGIEUNG;bYESIEUNG
3182;HANGUL LETTER YESIEUNG-SIOS;bYESIEUNG-PANSIOS;bKAPYEOUNPHIEUPH;bSSANGHIEUH;bYEORINHIEUH
3187;HANGUL LETTER YO-YA;bYO-YAE;bYO-I;bYU-YEO;bYU-YE;bYU-I;bARAEA;bARAEAE
3190;IDEOGRAPHIC ANNOTATION LINKING MARK;bREVERSE MARK;bONE MARK;bTWO MARK;bTHREE MARK;bFOUR MARK
3196;IDEOGRAPHIC ANNOTATION TOP MARK;bMIDDLE MARK;bBOTTOM MARK;bFIRST MARK;bSECOND MARK
319B;IDEOGRAPHIC ANNOTATION THIRD MARK;bFOURTH MARK;bHEAVEN MARK;bEARTH MARK;bMAN MARK
31A0;BOPOMOFO LETTER BU;bZI;bJI;bGU;bEE;bENN;bOO;bONN;bIR;bANN;bINN;bUNN;bIM;bNGG;bAINN;bAUNN;bAM
31B1;BOPOMOFO LETTER OM;bONG;bINNN;aFINAL LETTER P;cT;cK;cH;aLETTER GH;bLH;bZY;aFINAL LETTER G
31BC;BOPOMOFO LETTER GW;bKW;bOE;bAH;CJK STROKE T;bWG;bXG;bBXG;bSW;bHZZ;bHZG;bHP;bHZWG;bSZWG;bHZT
31CB;CJK STROKE HZZP;bHPWG;bHZW;bHZZZ;bN;bH;bS;bP;bSP;bD;bHZ;bHG;bSZ;bSWZ;bST;bSG;bPD;bPZ;bTN;bSZZ
31DF;CJK STROKE SWG;bHXWG;bHZZZG;bPG;bQ
31F0;KATAKANA LETTER SMALL KU;cSI;cSU;cTO;cNU;cHA;cHI;cHU;cHE;cHO;cMU;cRA;cRI;cRU;cRE;cRO
3200;PARENTHESIZED HANGUL KIYEOK;bNIEUN;bTIKEUT;bRIEUL;bMIEUM;bPIEUP;bSIOS;bIEUNG;bCIEUC;bCHIEUCH
320A;PARENTHESIZED HANGUL KHIEUKH;bTHIEUTH;bPHIEUPH;bHIEUH;bKIYEOK A;bNIEUN A;bTIKEUT A;bRIEUL A
3212;PARENTHESIZED HANGUL MIEUM A;bPIEUP A;bSIOS A;bIEUNG A;bCIEUC A;bCHIEUCH A;bKHIEUKH A
3219;PARENTHESIZED HANGUL THIEUTH A;bPHIEUPH A;bHIEUH A;bCIEUC U;aKOREAN CHARACTER OJEON;cO HU
3220;PARENTHESIZED IDEOGRAPH ONE;bTWO;bTHREE;bFOUR;bFIVE;bSIX;bSEVEN;bEIGHT;bNINE;bTEN;bMOON;bFIRE
322C;PARENTHESIZED IDEOGRAPH WATER;bWOOD;bMETAL;bEARTH;bSUN;bSTOCK;bHAVE;bSOCIETY;bNAME;bSPECIAL
3236;PARENTHESIZED IDEOGRAPH FINANCIAL;bCONGRATULATION;bLABOR;bREPRESENT;bCALL;bSTUDY;bSUPERVISE
323D;PARENTHESIZED IDEOGRAPH ENTERPRISE;bRESOURCE;bALLIANCE;bFESTIVAL;bREST;bSELF;bREACH
3244;CIRCLED IDEOGRAPH QUESTION;bKINDERGARTEN;bSCHOOL;bKOTO;aNUMBER TEN ON BLACK SQUARE
3249;CIRCLED NUMBER TWENTY ON BLACK SQUARE;bTHIRTY ON BLACK SQUARE;bFORTY ON BLACK SQUARE
324C;CIRCLED NUMBER FIFTY ON BLACK SQUARE;bSIXTY ON BLACK SQUARE;bSEVENTY ON BLACK SQUARE
324F;CIRCLED NUMBER EIGHTY ON BLACK SQUARE;PARTNERSHIP SIGN;CIRCLED NUMBER TWENTY ONE;cTWO;cTHREE
3254;CIRCLED NUMBER TWENTY FOUR;cFIVE;cSIX;cSEVEN;cEIGHT;cNINE;bTHIRTY;cONE;cTWO;cTHREE;cFOUR
325F;CIRCLED NUMBER THIRTY FIVE;aHANGUL KIYEOK;bNIEUN;bTIKEUT;bRIEUL;bMIEUM;bPIEUP;bSIOS;bIEUNG
3268;CIRCLED HANGUL CIEUC;bCHIEUCH;bKHIEUKH;bTHIEUTH;bPHIEUPH;bHIEUH;bKIYEOK A;bNIEUN A;bTIKEUT A
3271;CIRCLED HANGUL RIEUL A;bMIEUM A;bPIEUP A;bSIOS A;bIEUNG A;bCIEUC A;bCHIEUCH A;bKHIEUKH A
3279;CIRCLED HANGUL THIEUTH A;bPHIEUPH A;bHIEUH A;aKOREAN CHARACTER CHAMKO;cJUEUI;aHANGUL IEUNG U
327F;KOREAN STANDARD SYMBOL;CIRCLED IDEOGRAPH ONE;bTWO;bTHREE;bFOUR;bFIVE;bSIX;bSEVEN;bEIGHT;bNINE
3289;CIRCLED IDEOGRAPH TEN;bMOON;bFIRE;bWATER;bWOOD;bMETAL;bEARTH;bSUN;bSTOCK;bHAVE;bSOCIETY;bNAME
3295;CIRCLED IDEOGRAPH SPECIAL;bFINANCIAL;bCONGRATULATION;bLABOR;bSECRET;bMALE;bFEMALE;bSUITABLE
329D;CIRCLED IDEOGRAPH EXCELLENT;bPRINT;bATTENTION;bITEM;bREST;bCOPY;bCORRECT;bHIGH;bCENTRE;bLOW
32A7;CIRCLED IDEOGRAPH LEFT;bRIGHT;bMEDICINE;bRELIGION;bSTUDY;bSUPERVISE;bENTERPRISE;bRESOURCE
32AF;CIRCLED IDEOGRAPH ALLIANCE;bNIGHT;aNUMBER THIRTY SIX;cSEVEN;cEIGHT;cNINE;bFORTY;cONE;cTWO
32B8;CIRCLED NUMBER FORTY THREE;cFOUR;cFIVE;cSIX;cSEVEN;cEIGHT;cNINE;bFIFTY
32C0;IDEOGRAPHIC TELEGRAPH SYMBOL FOR JANUARY;dFEBRUARY;dMARCH;dAPRIL;dMAY;dJUNE;dJULY;dAUGUST
32C8;IDEOGRAPHIC TELEGRAPH SYMBOL FOR SEPTEMBER;dOCTOBER;dNOVEMBER;dDECEMBER;SQUARE HG;aERG;aEV
32CF;LIMITED LIABILITY SIGN;CIRCLED KATAKANA A;bI;bU;bE;bO;bKA;bKI;bKU;bKE;bKO;bSA;bSI;bSU;bSE;bSO
32DF;CIRCLED KATAKANA TA;bTI;bTU;bTE;bTO;bNA;bNI;bNU;bNE;bNO;bHA;bHI;bHU;bHE;bHO;bMA;bMI;bMU;bME
32F2;CIRCLED KATAKANA MO;bYA;bYU;bYO;bRA;bRI;bRU;bRE;bRO;bWA;bWI;bWE;bWO;SQUARE ERA NAME REIWA
3300;SQUARE APAATO;aARUHUA;aANPEA;aAARU;aININGU;aINTI;aUON;aESUKUUDO;aEEKAA;aONSU;aOOMU;aKAIRI
330C;SQUARE KARATTO;aKARORII;aGARON;aGANMA;aGIGA;aGINII;aKYURII;aGIRUDAA;aKIRO;aKIROGURAMU
3316;SQUARE KIROMEETORU;aKIROWATTO;aGURAMU;aGURAMUTON;aKURUZEIRO;aKUROONE;aKEESU;aKORUNA;aKOOPO
331F;SQUARE SAIKURU;aSANTIIMU;aSIRINGU;aSENTI;aSENTO;aDAASU;aDESI;aDORU;aTON;aNANO;aNOTTO;aHAITU
332B;SQUARE PAASENTO;aPAATU;aBAARERU;aPIASUTORU;aPIKURU;aPIKO;aBIRU;aHUARADDO;aHUIITO;aBUSSYERU
3335;SQUARE HURAN;aHEKUTAARU;aPESO;aPENIHI;aHERUTU;aPENSU;aPEEZI;aBEETA;aPOINTO;aBORUTO;aHON
3340;SQUARE PONDO;aHOORU;aHOON;aMAIKURO;aMAIRU;aMAHHA;aMARUKU;aMANSYON;aMIKURON;aMIRI;aMIRIBAARU
334B;SQUARE MEGA;aMEGATON;aMEETORU;aYAADO;aYAARU;aYUAN;aRITTORU;aRIRA;aRUPII;aRUUBURU;aREMU
3356;SQUARE RENTOGEN;aWATTO;IDEOGRAPHIC TELEGRAPH SYMBOL FOR HOUR ZERO;eONE;eTWO;eTHREE;eFOUR
335D;IDEOGRAPHIC TELEGRAPH SYMBOL FOR HOUR FIVE;eSIX;eSEVEN;eEIGHT;eNINE;eTEN;eELEVEN;eTWELVE
3365;IDEOGRAPHIC TELEGRAPH SYMBOL FOR HOUR THIRTEEN;eFOURTEEN;eFIFTEEN;eSIXTEEN;eSEVENTEEN
336A;IDEOGRAPHIC TELEGRAPH SYMBOL FOR HOUR EIGHTEEN;eNINETEEN;eTWENTY;eTWENTY-ONE;eTWENTY-TWO
336F;IDEOGRAPHIC TELEGRAPH SYMBOL FOR HOUR TWENTY-THREE;eTWENTY-FOUR;SQUARE HPA;aDA;aAU;aBAR;aOV
3376;SQUARE PC;aDM;bSQUARED;bCUBED;aIU;aERA NAME HEISEI;cSYOUWA;cTAISYOU;cMEIZI;aCORPORATION
3380;SQUARE PA AMPS;aNA;aMU A;aMA;aKA;aKB;aMB;aGB;aCAL;aKCAL;aPF;aNF;aMU F;bG;aMG;aKG;aHZ;aKHZ
3392;SQUARE MHZ;aGHZ;aTHZ;aMU L;aML;aDL;aKL;aFM;aNM;aMU M;aMM;aCM;aKM;aMM SQUARED;aCM SQUARED
33A1;SQUARE M SQUARED;aKM SQUARED;aMM CUBED;aCM CUBED;aM CUBED;aKM CUBED;aM OVER S;dSQUARED;aPA
33AA;SQUARE KPA;aMPA;aGPA;aRAD;bOVER S;dSQUARED;aPS;aNS;aMU S;aMS;aPV;aNV;aMU V;aMV;aKV;aMV MEGA
33BA;SQUARE PW;aNW;aMU W;aMW;aKW;aMW MEGA;aK OHM;aM OHM;aAM;aBQ;aCC;aCD;aC OVER KG;aCO;aDB;aGY;aHA
33CB;SQUARE HP;aIN;aKK;aKM CAPITAL;aKT;aLM;aLN;aLOG;aLX;aMB SMALL;aMIL;aMOL;aPH;aPM;aPPM;aPR;aSR
33DC;SQUARE SV;aWB;aV OVER M;aA OVER M;IDEOGRAPHIC TELEGRAPH SYMBOL FOR DAY ONE;eTWO;eTHREE;eFOUR
33E4;IDEOGRAPHIC TELEGRAPH SYMBOL FOR DAY FIVE;eSIX;eSEVEN;eEIGHT;eNINE;eTEN;eELEVEN;eTWELVE
33EC;IDEOGRAPHIC TELEGRAPH SYMBOL FOR DAY THIRTEEN;eFOURTEEN;eFIFTEEN;eSIXTEEN;eSEVENTEEN
33F1;IDEOGRAPHIC TELEGRAPH SYMBOL FOR DAY EIGHTEEN;eNINETEEN;eTWENTY;eTWENTY-ONE;eTWENTY-TWO
33F6;IDEOGRAPHIC TELEGRAPH SYMBOL FOR DAY TWENTY-THREE;eTWENTY-FOUR;eTWENTY-FIVE;eTWENTY-SIX
33FA;IDEOGRAPHIC TELEGRAPH SYMBOL FOR DAY TWENTY-SEVEN;eTWENTY-EIGHT;eTWENTY-NINE;eTHIRTY
33FE;IDEOGRAPHIC TELEGRAPH SYMBOL FOR DAY THIRTY-ONE;SQUARE GAL
4DC0;HEXAGRAM FOR THE CREATIVE HEAVEN;cRECEPTIVE EARTH;bDIFFICULTY AT THE BEGINNING
4DC3;HEXAGRAM FOR YOUTHFUL FOLLY;bWAITING;bCONFLICT;bTHE ARMY;bHOLDING TOGETHER;bSMALL TAMING
4DC9;HEXAGRAM FOR TREADING;bPEACE;bSTANDSTILL;bFELLOWSHIP;bGREAT POSSESSION;bMODESTY;bENTHUSIASM
4DD0;HEXAGRAM FOR FOLLOWING;bWORK ON THE DECAYED;bAPPROACH;bCONTEMPLATION;bBITING THROUGH;bGRACE
4DD6;HEXAGRAM FOR SPLITTING APART;bRETURN;bINNOCENCE;bGREAT TAMING;bMOUTH CORNERS
4DDB;HEXAGRAM FOR GREAT PREPONDERANCE;bTHE ABYSMAL WATER;cCLINGING FIRE;bINFLUENCE;bDURATION
4DE0;HEXAGRAM FOR RETREAT;bGREAT POWER;bPROGRESS;bDARKENING OF THE LIGHT;bTHE FAMILY;bOPPOSITION
4DE6;HEXAGRAM FOR OBSTRUCTION;bDELIVERANCE;bDECREASE;bINCREASE;bBREAKTHROUGH;bCOMING TO MEET
4DEC;HEXAGRAM FOR GATHERING TOGETHER;bPUSHING UPWARD;bOPPRESSION;bTHE WELL;bREVOLUTION
4DF1;HEXAGRAM FOR THE CAULDRON;cAROUSING THUNDER;cKEEPING STILL MOUNTAIN;bDEVELOPMENT
4DF5;HEXAGRAM FOR THE MARRYING MAIDEN;bABUNDANCE;bTHE WANDERER;cGENTLE WIND;cJOYOUS LAKE
4DFA;HEXAGRAM FOR DISPERSION;bLIMITATION;bINNER TRUTH;bSMALL PREPONDERANCE;bAFTER COMPLETION
4DFF;HEXAGRAM FOR BEFORE COMPLETION
A000;YI SYLLABLE IT;bIX;bI;bIP;bIET;bIEX;bIE;bIEP;bAT;bAX;bA;bAP;bUOX;bUO;bUOP;bOT;bOX;bO;bOP;bEX
A014;YI SYLLABLE E;bWU;bBIT;bBIX;bBI;bBIP;bBIET;bBIEX;bBIE;bBIEP;bBAT;bBAX;bBA;bBAP;bBUOX;bBUO
A024;YI SYLLABLE BUOP;bBOT;bBOX;bBO;bBOP;bBEX;bBE;bBEP;bBUT;bBUX;bBU;bBUP;bBURX;bBUR;bBYT;bBYX;bBY
A035;YI SYLLABLE BYP;bBYRX;bBYR;bPIT;bPIX;bPI;bPIP;bPIEX;bPIE;bPIEP;bPAT;bPAX;bPA;bPAP;bPUOX;bPUO
A045;YI SYLLABLE PUOP;bPOT;bPOX;bPO;bPOP;bPUT;bPUX;bPU;bPUP;bPURX;bPUR;bPYT;bPYX;bPY;bPYP;bPYRX
A055;YI SYLLABLE PYR;bBBIT;bBBIX;bBBI;bBBIP;bBBIET;bBBIEX;bBBIE;bBBIEP;bBBAT;bBBAX;bBBA;bBBAP
A062;YI SYLLABLE BBUOX;bBBUO;bBBUOP;bBBOT;bBBOX;bBBO;bBBOP;bBBEX;bBBE;bBBEP;bBBUT;bBBUX;bBBU;bBBUP
A070;YI SYLLABLE BBURX;bBBUR;bBBYT;bBBYX;bBBY;bBBYP;bNBIT;bNBIX;bNBI;bNBIP;bNBIEX;bNBIE;bNBIEP
A07D;YI SYLLABLE NBAT;bNBAX;bNBA;bNBAP;bNBOT;bNBOX;bNBO;bNBOP;bNBUT;bNBUX;bNBU;bNBUP;bNBURX;bNBUR
A08B;YI SYLLABLE NBYT;bNBYX;bNBY;bNBYP;bNBYRX;bNBYR;bHMIT;bHMIX;bHMI;bHMIP;bHMIEX;bHMIE;bHMIEP
A098;YI SYLLABLE HMAT;bHMAX;bHMA;bHMAP;bHMUOX;bHMUO;bHMUOP;bHMOT;bHMOX;bHMO;bHMOP;bHMUT;bHMUX;bHMU
A0A6;YI SYLLABLE HMUP;bHMURX;bHMUR;bHMYX;bHMY;bHMYP;bHMYRX;bHMYR;bMIT;bMIX;bMI;bMIP;bMIEX;bMIE
A0B4;YI SYLLABLE MIEP;bMAT;bMAX;bMA;bMAP;bMUOT;bMUOX;bMUO;bMUOP;bMOT;bMOX;bMO;bMOP;bMEX;bME;bMUT
A0C4;YI SYLLABLE MUX;bMU;bMUP;bMURX;bMUR;bMYT;bMYX;bMY;bMYP;bFIT;bFIX;bFI;bFIP;bFAT;bFAX;bFA;bFAP
A0D5;YI SYLLABLE FOX;bFO;bFOP;bFUT;bFUX;bFU;bFUP;bFURX;bFUR;bFYT;bFYX;bFY;bFYP;bVIT;bVIX;bVI;bVIP
A0E6;YI SYLLABLE VIET;bVIEX;bVIE;bVIEP;bVAT;bVAX;bVA;bVAP;bVOT;bVOX;bVO;bVOP;bVEX;bVEP;bVUT;bVUX
A0F6;YI SYLLABLE VU;bVUP;bVURX;bVUR;bVYT;bVYX;bVY;bVYP;bVYRX;bVYR;bDIT;bDIX;bDI;bDIP;bDIEX;bDIE
A106;YI SYLLABLE DIEP;bDAT;bDAX;bDA;bDAP;bDUOX;bDUO;bDOT;bDOX;bDO;bDOP;bDEX;bDE;bDEP;bDUT;bDUX;bDU
A117;YI SYLLABLE DUP;bDURX;bDUR;bTIT;bTIX;bTI;bTIP;bTIEX;bTIE;bTIEP;bTAT;bTAX;bTA;bTAP;bTUOT;bTUOX
A127;YI SYLLABLE TUO;bTUOP;bTOT;bTOX;bTO;bTOP;bTEX;bTE;bTEP;bTUT;bTUX;bTU;bTUP;bTURX;bTUR;bDDIT
A137;YI SYLLABLE DDIX;bDDI;bDDIP;bDDIEX;bDDIE;bDDIEP;bDDAT;bDDAX;bDDA;bDDAP;bDDUOX;bDDUO;bDDUOP
A144;YI SYLLABLE DDOT;bDDOX;bDDO;bDDOP;bDDEX;bDDE;bDDEP;bDDUT;bDDUX;bDDU;bDDUP;bDDURX;bDDUR;bNDIT
A152;YI SYLLABLE NDIX;bNDI;bNDIP;bNDIEX;bNDIE;bNDAT;bNDAX;bNDA;bNDAP;bNDOT;bNDOX;bNDO;bNDOP;bNDEX
A160;YI SYLLABLE NDE;bNDEP;bNDUT;bNDUX;bNDU;bNDUP;bNDURX;bNDUR;bHNIT;bHNIX;bHNI;bHNIP;bHNIET
A16D;YI SYLLABLE HNIEX;bHNIE;bHNIEP;bHNAT;bHNAX;bHNA;bHNAP;bHNUOX;bHNUO;bHNOT;bHNOX;bHNOP;bHNEX
A17A;YI SYLLABLE HNE;bHNEP;bHNUT;bNIT;bNIX;bNI;bNIP;bNIEX;bNIE;bNIEP;bNAX;bNA;bNAP;bNUOX;bNUO
A189;YI SYLLABLE NUOP;bNOT;bNOX;bNO;bNOP;bNEX;bNE;bNEP;bNUT;bNUX;bNU;bNUP;bNURX;bNUR;bHLIT;bHLIX
A199;YI SYLLABLE HLI;bHLIP;bHLIEX;bHLIE;bHLIEP;bHLAT;bHLAX;bHLA;bHLAP;bHLUOX;bHLUO;bHLUOP;bHLOX
A1A6;YI SYLLABLE HLO;bHLOP;bHLEX;bHLE;bHLEP;bHLUT;bHLUX;bHLU;bHLUP;bHLURX;bHLUR;bHLYT;bHLYX;bHLY
A1B4;YI SYLLABLE HLYP;bHLYRX;bHLYR;bLIT;bLIX;bLI;bLIP;bLIET;bLIEX;bLIE;bLIEP;bLAT;bLAX;bLA;bLAP
A1C3;YI SYLLABLE LUOT;bLUOX;bLUO;bLUOP;bLOT;bLOX;bLO;bLOP;bLEX;bLE;bLEP;bLUT;bLUX;bLU;bLUP;bLURX
A1D3;YI SYLLABLE LUR;bLYT;bLYX;bLY;bLYP;bLYRX;bLYR;bGIT;bGIX;bGI;bGIP;bGIET;bGIEX;bGIE;bGIEP;bGAT
A1E3;YI SYLLABLE GAX;bGA;bGAP;bGUOT;bGUOX;bGUO;bGUOP;bGOT;bGOX;bGO;bGOP;bGET;bGEX;bGE;bGEP;bGUT
A1F3;YI SYLLABLE GUX;bGU;bGUP;bGURX;bGUR;bKIT;bKIX;bKI;bKIP;bKIEX;bKIE;bKIEP;bKAT;bKAX;bKA;bKAP
A203;YI SYLLABLE KUOX;bKUO;bKUOP;bKOT;bKOX;bKO;bKOP;bKET;bKEX;bKE;bKEP;bKUT;bKUX;bKU;bKUP;bKURX
A213;YI SYLLABLE KUR;bGGIT;bGGIX;bGGI;bGGIEX;bGGIE;bGGIEP;bGGAT;bGGAX;bGGA;bGGAP;bGGUOT;bGGUOX
A220;YI SYLLABLE GGUO;bGGUOP;bGGOT;bGGOX;bGGO;bGGOP;bGGET;bGGEX;bGGE;bGGEP;bGGUT;bGGUX;bGGU;bGGUP
A22E;YI SYLLABLE GGURX;bGGUR;bMGIEX;bMGIE;bMGAT;bMGAX;bMGA;bMGAP;bMGUOX;bMGUO;bMGUOP;bMGOT;bMGOX
A23B;YI SYLLABLE MGO;bMGOP;bMGEX;bMGE;bMGEP;bMGUT;bMGUX;bMGU;bMGUP;bMGURX;bMGUR;bHXIT;bHXIX;bHXI
A249;YI SYLLABLE HXIP;bHXIET;bHXIEX;bHXIE;bHXIEP;bHXAT;bHXAX;bHXA;bHXAP;bHXUOT;bHXUOX;bHXUO;bHXUOP
A256;YI SYLLABLE HXOT;bHXOX;bHXO;bHXOP;bHXEX;bHXE;bHXEP;bNGIEX;bNGIE;bNGIEP;bNGAT;bNGAX;bNGA;bNGAP
A264;YI SYLLABLE NGUOT;bNGUOX;bNGUO;bNGOT;bNGOX;bNGO;bNGOP;bNGEX;bNGE;bNGEP;bHIT;bHIEX;bHIE;bHAT
A272;YI SYLLABLE HAX;bHA;bHAP;bHUOT;bHUOX;bHUO;bHUOP;bHOT;bHOX;bHO;bHOP;bHEX;bHE;bHEP;bWAT;bWAX
A282;YI SYLLABLE WA;bWAP;bWUOX;bWUO;bWUOP;bWOX;bWO;bWOP;bWEX;bWE;bWEP;bZIT;bZIX;bZI;bZIP;bZIEX
A292;YI SYLLABLE ZIE;bZIEP;bZAT;bZAX;bZA;bZAP;bZUOX;bZUO;bZUOP;bZOT;bZOX;bZO;bZOP;bZEX;bZE;bZEP
A2A2;YI SYLLABLE ZUT;bZUX;bZU;bZUP;bZURX;bZUR;bZYT;bZYX;bZY;bZYP;bZYRX;bZYR;bCIT;bCIX;bCI;bCIP
A2B2;YI SYLLABLE CIET;bCIEX;bCIE;bCIEP;bCAT;bCAX;bCA;bCAP;bCUOX;bCUO;bCUOP;bCOT;bCOX;bCO;bCOP;bCEX
A2C2;YI SYLLABLE CE;bCEP;bCUT;bCUX;bCU;bCUP;bCURX;bCUR;bCYT;bCYX;bCY;bCYP;bCYRX;bCYR;bZZIT;bZZIX
A2D2;YI SYLLABLE ZZI;bZZIP;bZZIET;bZZIEX;bZZIE;bZZIEP;bZZAT;bZZAX;bZZA;bZZAP;bZZOX;bZZO;bZZOP
A2DF;YI SYLLABLE ZZEX;bZZE;bZZEP;bZZUX;bZZU;bZZUP;bZZURX;bZZUR;bZZYT;bZZYX;bZZY;bZZYP;bZZYRX;bZZYR
A2ED;YI SYLLABLE NZIT;bNZIX;bNZI;bNZIP;bNZIEX;bNZIE;bNZIEP;bNZAT;bNZAX;bNZA;bNZAP;bNZUOX;bNZUO
A2FA;YI SYLLABLE NZOX;bNZOP;bNZEX;bNZE;bNZUX;bNZU;bNZUP;bNZURX;bNZUR;bNZYT;bNZYX;bNZY;bNZYP;bNZYRX
A308;YI SYLLABLE NZYR;bSIT;bSIX;bSI;bSIP;bSIEX;bSIE;bSIEP;bSAT;bSAX;bSA;bSAP;bSUOX;bSUO;bSUOP;bSOT
A318;YI SYLLABLE SOX;bSO;bSOP;bSEX;bSE;bSEP;bSUT;bSUX;bSU;bSUP;bSURX;bSUR;bSYT;bSYX;bSY;bSYP;bSYRX
A329;YI SYLLABLE SYR;bSSIT;bSSIX;bSSI;bSSIP;bSSIEX;bSSIE;bSSIEP;bSSAT;bSSAX;bSSA;bSSAP;bSSOT;bSSOX
A337;YI SYLLABLE SSO;bSSOP;bSSEX;bSSE;bSSEP;bSSUT;bSSUX;bSSU;bSSUP;bSSYT;bSSYX;bSSY;bSSYP;bSSYRX
A345;YI SYLLABLE SSYR;bZHAT;bZHAX;bZHA;bZHAP;bZHUOX;bZHUO;bZHUOP;bZHOT;bZHOX;bZHO;bZHOP;bZHET
A352;YI SYLLABLE ZHEX;bZHE;bZHEP;bZHUT;bZHUX;bZHU;bZHUP;bZHURX;bZHUR;bZHYT;bZHYX;bZHY;bZHYP;bZHYRX
A360;YI SYLLABLE ZHYR;bCHAT;bCHAX;bCHA;bCHAP;bCHUOT;bCHUOX;bCHUO;bCHUOP;bCHOT;bCHOX;bCHO;bCHOP
A36D;YI SYLLABLE CHET;bCHEX;bCHE;bCHEP;bCHUX;bCHU;bCHUP;bCHURX;bCHUR;bCHYT;bCHYX;bCHY;bCHYP;bCHYRX
A37B;YI SYLLABLE CHYR;bRRAX;bRRA;bRRUOX;bRRUO;bRROT;bRROX;bRRO;bRROP;bRRET;bRREX;bRRE;bRREP;bRRUT
A389;YI SYLLABLE RRUX;bRRU;bRRUP;bRRURX;bRRUR;bRRYT;bRRYX;bRRY;bRRYP;bRRYRX;bRRYR;bNRAT;bNRAX;bNRA
A397;YI SYLLABLE NRAP;bNROX;bNRO;bNROP;bNRET;bNREX;bNRE;bNREP;bNRUT;bNRUX;bNRU;bNRUP;bNRURX;bNRUR
A3A5;YI SYLLABLE NRYT;bNRYX;bNRY;bNRYP;bNRYRX;bNRYR;bSHAT;bSHAX;bSHA;bSHAP;bSHUOX;bSHUO;bSHUOP
A3B2;YI SYLLABLE SHOT;bSHOX;bSHO;bSHOP;bSHET;bSHEX;bSHE;bSHEP;bSHUT;bSHUX;bSHU;bSHUP;bSHURX;bSHUR
A3C0;YI SYLLABLE SHYT;bSHYX;bSHY;bSHYP;bSHYRX;bSHYR;bRAT;bRAX;bRA;bRAP;bRUOX;bRUO;bRUOP;bROT;bROX
A3CF;YI SYLLABLE RO;bROP;bREX;bRE;bREP;bRUT;bRUX;bRU;bRUP;bRURX;bRUR;bRYT;bRYX;bRY;bRYP;bRYRX;bRYR
A3E0;YI SYLLABLE JIT;bJIX;bJI;bJIP;bJIET;bJIEX;bJIE;bJIEP;bJUOT;bJUOX;bJUO;bJUOP;bJOT;bJOX;bJO
A3EF;YI SYLLABLE JOP;bJUT;bJUX;bJU;bJUP;bJURX;bJUR;bJYT;bJYX;bJY;bJYP;bJYRX;bJYR;bQIT;bQIX;bQI
A3FF;YI SYLLABLE QIP;bQIET;bQIEX;bQIE;bQIEP;bQUOT;bQUOX;bQUO;bQUOP;bQOT;bQOX;bQO;bQOP;bQUT;bQUX
A40E;YI SYLLABLE QU;bQUP;bQURX;bQUR;bQYT;bQYX;bQY;bQYP;bQYRX;bQYR;bJJIT;bJJIX;bJJI;bJJIP;bJJIET
A41D;YI SYLLABLE JJIEX;bJJIE;bJJIEP;bJJUOX;bJJUO;bJJUOP;bJJOT;bJJOX;bJJO;bJJOP;bJJUT;bJJUX;bJJU
A42A;YI SYLLABLE JJUP;bJJURX;bJJUR;bJJYT;bJJYX;bJJY;bJJYP;bNJIT;bNJIX;bNJI;bNJIP;bNJIET;bNJIEX
A437;YI SYLLABLE NJIE;bNJIEP;bNJUOX;bNJUO;bNJOT;bNJOX;bNJO;bNJOP;bNJUX;bNJU;bNJUP;bNJURX;bNJUR
A444;YI SYLLABLE NJYT;bNJYX;bNJY;bNJYP;bNJYRX;bNJYR;bNYIT;bNYIX;bNYI;bNYIP;bNYIET;bNYIEX;bNYIE
A451;YI SYLLABLE NYIEP;bNYUOX;bNYUO;bNYUOP;bNYOT;bNYOX;bNYO;bNYOP;bNYUT;bNYUX;bNYU;bNYUP;bXIT;bXIX
A45F;YI SYLLABLE XI;bXIP;bXIET;bXIEX;bXIE;bXIEP;bXUOX;bXUO;bXOT;bXOX;bXO;bXOP;bXYT;bXYX;bXY;bXYP
A46F;YI SYLLABLE XYRX;bXYR;bYIT;bYIX;bYI;bYIP;bYIET;bYIEX;bYIE;bYIEP;bYUOT;bYUOX;bYUO;bYUOP;bYOT
A47E;YI SYLLABLE YOX;bYO;bYOP;bYUT;bYUX;bYU;bYUP;bYURX;bYUR;bYYT;bYYX;bYY;bYYP;bYYRX;bYYR
A490;YI RADICAL QOT;bLI;bKIT;bNYIP;bCYP;bSSI;bGGOP;bGEP;bMI;bHXIT;bLYR;bBBUT;bMOP;bYO;bPUT;bHXUO
A4A0;YI RADICAL TAT;bGA;bZUP;bCYT;bDDUR;bBUR;bGGUO;bNYOP;bTU;bOP;bJJUT;bZOT;bPYT;bHMO;bYIT;bVUR
A4B0;YI RADICAL SHY;bVEP;bZA;bJO;bNZUP;bJJY;bGOT;bJJIE;bWO;bDU;bSHUR;bLIE;bCY;bCUOP;bCIP;bHXOP
A4C0;YI RADICAL SHAT;bZUR;bSHOP;bCHE;bZZIET;bNBIE;bKE
A4D0;LISU LETTER BA;bPA;bPHA;bDA;bTA;bTHA;bGA;bKA;bKHA;bJA;bCA;bCHA;bDZA;bTSA;bTSHA;bMA;bNA;bLA
A4E2;LISU LETTER SA;bZHA;bZA;bNGA;bHA;bXA;bHHA;bFA;bWA;bSHA;bYA;bGHA;bA;bAE;bE;bEU;bI;bO;bU;bUE
A4F6;LISU LETTER UH;bOE;bTONE MYA TI;cNA PO;cMYA CYA;dBO;dNA;dJEU;aPUNCTUATION COMMA;bFULL STOP
A500;VAI SYLLABLE EE;bEEN;bHEE;bWEE;bWEEN;bPEE;bBHEE;bBEE;bMBEE;bKPEE;bMGBEE;bGBEE;bFEE;bVEE;bTEE
A50F;VAI SYLLABLE THEE;bDHEE;bDHHEE;bLEE;bREE;bDEE;bNDEE;bSEE;bSHEE;bZEE;bZHEE;bCEE;bJEE;bNJEE
A51D;VAI SYLLABLE YEE;bKEE;bNGGEE;bGEE;bMEE;bNEE;bNYEE;bI;bIN;bHI;bHIN;bWI;bWIN;bPI;bBHI;bBI;bMBI
A52E;VAI SYLLABLE KPI;bMGBI;bGBI;bFI;bVI;bTI;bTHI;bDHI;bDHHI;bLI;bRI;bDI;bNDI;bSI;bSHI;bZI;bZHI
A53F;VAI SYLLABLE CI;bJI;bNJI;bYI;bKI;bNGGI;bGI;bMI;bNI;bNYI;bA;bAN;bNGAN;bHA;bHAN;bWA;bWAN;bPA
A551;VAI SYLLABLE BHA;bBA;bMBA;bKPA;bKPAN;bMGBA;bGBA;bFA;bVA;bTA;bTHA;bDHA;bDHHA;bLA;bRA;bDA;bNDA
A562;VAI SYLLABLE SA;bSHA;bZA;bZHA;bCA;bJA;bNJA;bYA;bKA;bKAN;bNGGA;bGA;bMA;bNA;bNYA;bOO;bOON;bHOO
A574;VAI SYLLABLE WOO;bWOON;bPOO;bBHOO;bBOO;bMBOO;bKPOO;bMGBOO;bGBOO;bFOO;bVOO;bTOO;bTHOO;bDHOO
A582;VAI SYLLABLE DHHOO;bLOO;bROO;bDOO;bNDOO;bSOO;bSHOO;bZOO;bZHOO;bCOO;bJOO;bNJOO;bYOO;bKOO
A590;VAI SYLLABLE NGGOO;bGOO;bMOO;bNOO;bNYOO;bU;bUN;bHU;bHUN;bWU;bWUN;bPU;bBHU;bBU;bMBU;bKPU;bMGBU
A5A1;VAI SYLLABLE GBU;bFU;bVU;bTU;bTHU;bDHU;bDHHU;bLU;bRU;bDU;bNDU;bSU;bSHU;bZU;bZHU;bCU;bJU;bNJU
A5B3;VAI SYLLABLE YU;bKU;bNGGU;bGU;bMU;bNU;bNYU;bO;bON;bNGON;bHO;bHON;bWO;bWON;bPO;bBHO;bBO;bMBO
A5C5;VAI SYLLABLE KPO;bMGBO;bGBO;bGBON;bFO;bVO;bTO;bTHO;bDHO;bDHHO;bLO;bRO;bDO;bNDO;bSO;bSHO;bZO
A5D6;VAI SYLLABLE ZHO;bCO;bJO;bNJO;bYO;bKO;bNGGO;bGO;bMO;bNO;bNYO;bE;bEN;bNGEN;bHE;bHEN;bWE;bWEN
A5E8;VAI SYLLABLE PE;bBHE;bBE;bMBE;bKPE;bKPEN;bMGBE;bGBE;bGBEN;bFE;bVE;bTE;bTHE;bDHE;bDHHE;bLE;bRE
A5F9;VAI SYLLABLE DE;bNDE;bSE;bSHE;bZE;bZHE;bCE;bJE;bNJE;bYE;bKE;bNGGE;bNGGEN;bGE;bGEN;bME;bNE
A60A;VAI SYLLABLE NYE;bNG;bLENGTHENER;aCOMMA;aFULL STOP;aQUESTION MARK;aSYLLABLE NDOLE FA;cKA;cSOO
A613;VAI SYMBOL FEENG;bKEENG;bTING;bNII;bBANG;bFAA;bTAA;bDANG;bDOONG;bKUNG;bTONG;bDO-O;bJONG
A620;VAI DIGIT ZERO;bONE;bTWO;bTHREE;bFOUR;bFIVE;bSIX;bSEVEN;bEIGHT;bNINE;aSYLLABLE NDOLE MA;cDO
A640;CYRILLIC CAPITAL LETTER ZEMLYA;aSMALL LETTER ZEMLYA;aCAPITAL LETTER DZELO;aSMALL LETTER DZELO
A644;CYRILLIC CAPITAL LETTER REVERSED DZE;aSMALL LETTER REVERSED DZE;aCAPITAL LETTER IOTA
A647;CYRILLIC SMALL LETTER IOTA;aCAPITAL LETTER DJERV;aSMALL LETTER DJERV
A64A;CYRILLIC CAPITAL LETTER MONOGRAPH UK;aSMALL LETTER MONOGRAPH UK;aCAPITAL LETTER BROAD OMEGA
A64D;CYRILLIC SMALL LETTER BROAD OMEGA;aCAPITAL LETTER NEUTRAL YER;aSMALL LETTER NEUTRAL YER
A650;CYRILLIC CAPITAL LETTER YERU WITH BACK YER;aSMALL LETTER YERU WITH BACK YER
A652;CYRILLIC CAPITAL LETTER IOTIFIED YAT;aSMALL LETTER IOTIFIED YAT;aCAPITAL LETTER REVERSED YU
A655;CYRILLIC SMALL LETTER REVERSED YU;aCAPITAL LETTER IOTIFIED A;aSMALL LETTER IOTIFIED A
A658;CYRILLIC CAPITAL LETTER CLOSED LITTLE YUS;aSMALL LETTER CLOSED LITTLE YUS
A65A;CYRILLIC CAPITAL LETTER BLENDED YUS;aSMALL LETTER BLENDED YUS
A65C;CYRILLIC CAPITAL LETTER IOTIFIED CLOSED LITTLE YUS;aSMALL LETTER IOTIFIED CLOSED LITTLE YUS
A65E;CYRILLIC CAPITAL LETTER YN;aSMALL LETTER YN;aCAPITAL LETTER REVERSED TSE
A661;CYRILLIC SMALL LETTER REVERSED TSE;aCAPITAL LETTER SOFT DE;aSMALL LETTER SOFT DE
A664;CYRILLIC CAPITAL LETTER SOFT EL;aSMALL LETTER SOFT EL;aCAPITAL LETTER SOFT EM
A667;CYRILLIC SMALL LETTER SOFT EM;aCAPITAL LETTER MONOCULAR O;aSMALL LETTER MONOCULAR O
A66A;CYRILLIC CAPITAL LETTER BINOCULAR O;aSMALL LETTER BINOCULAR O
A66C;CYRILLIC CAPITAL LETTER DOUBLE MONOCULAR O;aSMALL LETTER DOUBLE MONOCULAR O
A66E;CYRILLIC LETTER MULTIOCULAR O;COMBINING CYRILLIC VZMET;bTEN MILLIONS SIGN
A671;COMBINING CYRILLIC HUNDRED MILLIONS SIGN;bTHOUSAND MILLIONS SIGN;SLAVONIC ASTERISK
A674;COMBINING CYRILLIC LETTER UKRAINIAN IE;cI;cYI;cU;cHARD SIGN;cYERU;cSOFT SIGN;cOMEGA;bKAVYKA
A67D;COMBINING CYRILLIC PAYEROK;CYRILLIC KAVYKA;aPAYEROK;aCAPITAL LETTER DWE;aSMALL LETTER DWE
A682;CYRILLIC CAPITAL LETTER DZWE;aSMALL LETTER DZWE;aCAPITAL LETTER ZHWE;aSMALL LETTER ZHWE
A686;CYRILLIC CAPITAL LETTER CCHE;aSMALL LETTER CCHE;aCAPITAL LETTER DZZE;aSMALL LETTER DZZE
A68A;CYRILLIC CAPITAL LETTER TE WITH MIDDLE HOOK;aSMALL LETTER TE WITH MIDDLE HOOK
A68C;CYRILLIC CAPITAL LETTER TWE;aSMALL LETTER TWE;aCAPITAL LETTER TSWE;aSMALL LETTER TSWE
A690;CYRILLIC CAPITAL LETTER TSSE;aSMALL LETTER TSSE;aCAPITAL LETTER TCHE;aSMALL LETTER TCHE
A694;CYRILLIC CAPITAL LETTER HWE;aSMALL LETTER HWE;aCAPITAL LETTER SHWE;aSMALL LETTER SHWE
A698;CYRILLIC CAPITAL LETTER DOUBLE O;aSMALL LETTER DOUBLE O;aCAPITAL LETTER CROSSED O
A69B;CYRILLIC SMALL LETTER CROSSED O;MODIFIER LETTER CYRILLIC HARD SIGN;cSOFT SIGN
A69E;COMBINING CYRILLIC LETTER EF;cIOTIFIED E;BAMUM LETTER A;bKA;bU;bKU;bEE;bREE;bTAE;bO;bNYI;bI
A6AA;BAMUM LETTER LA;bPA;bRII;bRIEE;bLEEEE;bMEEEE;bTAA;bNDAA;bNJAEM;bM;bSUU;bMU;bSHII;bSI;bSHEUX
A6B9;BAMUM LETTER SEUX;bKYEE;bKET;bNUAE;bNU;bNJUAE;bYOQ;bSHU;bYUQ;bYA;bNSHA;bKEUX;bPEUX;bNJEE
A6C7;BAMUM LETTER NTEE;bPUE;bWUE;bPEE;bFEE;bRU;bLU;bMI;bNI;bREUX;bRAE;bKEN;bNGKWAEN;bNGGA;bNGA
A6D6;BAMUM LETTER SHO;bPUAE;bFU;bFOM;bWA;bNA;bLI;bPI;bLOQ;bKO;bMBEN;bREN;bMEN;bMA;bTI;bKI;bMO
A6E7;BAMUM LETTER MBAA;bTET;bKPA;bTEN;bNTUU;bSAMBA;bFAAMAE;bKOVUU;bKOGHOM;aCOMBINING MARK KOQNDON
A6F1;BAMUM COMBINING MARK TUKWENTIS;aNJAEMLI;aFULL STOP;aCOLON;aCOMMA;aSEMICOLON;aQUESTION MARK
A700;MODIFIER LETTER CHINESE TONE YIN PING;dYANG PING;dYIN SHANG;dYANG SHANG;dYIN QU;dYANG QU
A706;MODIFIER LETTER CHINESE TONE YIN RU;dYANG RU;bEXTRA-HIGH DOTTED TONE BAR
A709;MODIFIER LETTER HIGH DOTTED TONE BAR;bMID DOTTED TONE BAR;bLOW DOTTED TONE BAR
A70C;MODIFIER LETTER EXTRA-LOW DOTTED TONE BAR;bEXTRA-HIGH DOTTED LEFT-STEM TONE BAR
A70E;MODIFIER LETTER HIGH DOTTED LEFT-STEM TONE BAR;bMID DOTTED LEFT-STEM TONE BAR
A710;MODIFIER LETTER LOW DOTTED LEFT-STEM TONE BAR;bEXTRA-LOW DOTTED LEFT-STEM TONE BAR
A712;MODIFIER LETTER EXTRA-HIGH LEFT-STEM TONE BAR;bHIGH LEFT-STEM TONE BAR
A714;MODIFIER LETTER MID LEFT-STEM TONE BAR;bLOW LEFT-STEM TONE BAR;bEXTRA-LOW LEFT-STEM TONE BAR
A717;MODIFIER LETTER DOT VERTICAL BAR;cSLASH;cHORIZONTAL BAR;bLOWER RIGHT CORNER ANGLE
A71B;MODIFIER LETTER RAISED UP ARROW;cDOWN ARROW;cEXCLAMATION MARK;cINVERTED EXCLAMATION MARK
A71F;MODIFIER LETTER LOW INVERTED EXCLAMATION MARK;bSTRESS AND HIGH TONE;dLOW TONE
A722;LATIN CAPITAL LETTER EGYPTOLOGICAL ALEF;aSMALL LETTER EGYPTOLOGICAL ALEF
A724;LATIN CAPITAL LETTER EGYPTOLOGICAL AIN;aSMALL LETTER EGYPTOLOGICAL AIN;aCAPITAL LETTER HENG
A727;LATIN SMALL LETTER HENG;aCAPITAL LETTER TZ;aSMALL LETTER TZ;aCAPITAL LETTER TRESILLO
A72B;LATIN SMALL LETTER TRESILLO;aCAPITAL LETTER CUATRILLO;aSMALL LETTER CUATRILLO
A72E;LATIN CAPITAL LETTER CUATRILLO WITH COMMA;aSMALL LETTER CUATRILLO WITH COMMA
A730;LATIN LETTER SMALL CAPITAL F;dS;aCAPITAL LETTER AA;aSMALL LETTER AA;aCAPITAL LETTER AO
A735;LATIN SMALL LETTER AO;aCAPITAL LETTER AU;aSMALL LETTER AU;aCAPITAL LETTER AV;aSMALL LETTER AV
A73A;LATIN CAPITAL LETTER AV WITH HORIZONTAL BAR;aSMALL LETTER AV WITH HORIZONTAL BAR
A73C;LATIN CAPITAL LETTER AY;aSMALL LETTER AY;aCAPITAL LETTER REVERSED C WITH DOT
A73F;LATIN SMALL LETTER REVERSED C WITH DOT;aCAPITAL LETTER K WITH STROKE
A741;LATIN SMALL LETTER K WITH STROKE;aCAPITAL LETTER K WITH DIAGONAL STROKE
A743;LATIN SMALL LETTER K WITH DIAGONAL STROKE;aCAPITAL LETTER K WITH STROKE AND DIAGONAL STROKE
A745;LATIN SMALL LETTER K WITH STROKE AND DIAGONAL STROKE;aCAPITAL LETTER BROKEN L
A747;LATIN SMALL LETTER BROKEN L;aCAPITAL LETTER L WITH HIGH STROKE
A749;LATIN SMALL LETTER L WITH HIGH STROKE;aCAPITAL LETTER O WITH LONG STROKE OVERLAY
A74B;LATIN SMALL LETTER O WITH LONG STROKE OVERLAY;aCAPITAL LETTER O WITH LOOP
A74D;LATIN SMALL LETTER O WITH LOOP;aCAPITAL LETTER OO;aSMALL LETTER OO
A750;LATIN CAPITAL LETTER P WITH STROKE THROUGH DESCENDER
A751;LATIN SMALL LETTER P WITH STROKE THROUGH DESCENDER;aCAPITAL LETTER P WITH FLOURISH
A753;LATIN SMALL LETTER P WITH FLOURISH;aCAPITAL LETTER P WITH SQUIRREL TAIL
A755;LATIN SMALL LETTER P WITH SQUIRREL TAIL;aCAPITAL LETTER Q WITH STROKE THROUGH DESCENDER
A757;LATIN SMALL LETTER Q WITH STROKE THROUGH DESCENDER;aCAPITAL LETTER Q WITH DIAGONAL STROKE
A759;LATIN SMALL LETTER Q WITH DIAGONAL STROKE;aCAPITAL LETTER R ROTUNDA;aSMALL LETTER R ROTUNDA
A75C;LATIN CAPITAL LETTER RUM ROTUNDA;aSMALL LETTER RUM ROTUNDA
A75E;LATIN CAPITAL LETTER V WITH DIAGONAL STROKE;aSMALL LETTER V WITH DIAGONAL STROKE
A760;LATIN CAPITAL LETTER VY;aSMALL LETTER VY;aCAPITAL LETTER VISIGOTHIC Z
A763;LATIN SMALL LETTER VISIGOTHIC Z;aCAPITAL LETTER THORN WITH STROKE
A765;LATIN SMALL LETTER THORN WITH STROKE;aCAPITAL LETTER THORN WITH STROKE THROUGH DESCENDER
A767;LATIN SMALL LETTER THORN WITH STROKE THROUGH DESCENDER;aCAPITAL LETTER VEND
A769;LATIN SMALL LETTER VEND;aCAPITAL LETTER ET;aSMALL LETTER ET;aCAPITAL LETTER IS
A76D;LATIN SMALL LETTER IS;aCAPITAL LETTER CON;aSMALL LETTER CON;MODIFIER LETTER US
A771;LATIN SMALL LETTER DUM;cLUM;cMUM;cNUM;cRUM;aLETTER SMALL CAPITAL RUM;aSMALL LETTER TUM;cUM
A779;LATIN CAPITAL LETTER INSULAR D;aSMALL LETTER INSULAR D;aCAPITAL LETTER INSULAR F
A77C;LATIN SMALL LETTER INSULAR F;aCAPITAL LETTER INSULAR G;cTURNED INSULAR G
A77F;LATIN SMALL LETTER TURNED INSULAR G;aCAPITAL LETTER TURNED L;aSMALL LETTER TURNED L
A782;LATIN CAPITAL LETTER INSULAR R;aSMALL LETTER INSULAR R;aCAPITAL LETTER INSULAR S
A785;LATIN SMALL LETTER INSULAR S;aCAPITAL LETTER INSULAR T;aSMALL LETTER INSULAR T
A788;MODIFIER LETTER LOW CIRCUMFLEX ACCENT;bCOLON;bSHORT EQUALS SIGN;LATIN CAPITAL LETTER SALTILLO
A78C;LATIN SMALL LETTER SALTILLO;aCAPITAL LETTER TURNED H
A78E;LATIN SMALL LETTER L WITH RETROFLEX HOOK AND BELT;aLETTER SINOLOGICAL DOT
A790;LATIN CAPITAL LETTER N WITH DESCENDER;aSMALL LETTER N WITH DESCENDER
A792;LATIN CAPITAL LETTER C WITH BAR;aSMALL LETTER C WITH BAR;ePALATAL HOOK;cH WITH PALATAL HOOK
A796;LATIN CAPITAL LETTER B WITH FLOURISH;aSMALL LETTER B WITH FLOURISH
A798;LATIN CAPITAL LETTER F WITH STROKE;aSMALL LETTER F WITH STROKE;aCAPITAL LETTER VOLAPUK AE
A79B;LATIN SMALL LETTER VOLAPUK AE;aCAPITAL LETTER VOLAPUK OE;aSMALL LETTER VOLAPUK OE
A79E;LATIN CAPITAL LETTER VOLAPUK UE;aSMALL LETTER VOLAPUK UE
A7A0;LATIN CAPITAL LETTER G WITH OBLIQUE STROKE;aSMALL LETTER G WITH OBLIQUE STROKE
A7A2;LATIN CAPITAL LETTER K WITH OBLIQUE STROKE;aSMALL LETTER K WITH OBLIQUE STROKE
A7A4;LATIN CAPITAL LETTER N WITH OBLIQUE STROKE;aSMALL LETTER N WITH OBLIQUE STROKE
A7A6;LATIN CAPITAL LETTER R WITH OBLIQUE STROKE;aSMALL LETTER R WITH OBLIQUE STROKE
A7A8;LATIN CAPITAL LETTER S WITH OBLIQUE STROKE;aSMALL LETTER S WITH OBLIQUE STROKE
A7AA;LATIN CAPITAL LETTER H WITH HOOK;cREVERSED OPEN E;cSCRIPT G;cL WITH BELT;cSMALL CAPITAL I
A7AF;LATIN LETTER SMALL CAPITAL Q;aCAPITAL LETTER TURNED K;dT;cJ WITH CROSSED-TAIL;cCHI;cBETA
A7B5;LATIN SMALL LETTER BETA;aCAPITAL LETTER OMEGA;aSMALL LETTER OMEGA
A7B8;LATIN CAPITAL LETTER U WITH STROKE;aSMALL LETTER U WITH STROKE;aCAPITAL LETTER GLOTTAL A
A7BB;LATIN SMALL LETTER GLOTTAL A;aCAPITAL LETTER GLOTTAL I;aSMALL LETTER GLOTTAL I
A7BE;LATIN CAPITAL LETTER GLOTTAL U;aSMALL LETTER GLOTTAL U;aCAPITAL LETTER OLD POLISH O
A7C1;LATIN SMALL LETTER OLD POLISH O;aCAPITAL LETTER ANGLICANA W;aSMALL LETTER ANGLICANA W
A7C4;LATIN CAPITAL LETTER C WITH PALATAL HOOK;cS WITH HOOK;cZ WITH PALATAL HOOK
A7C7;LATIN CAPITAL LETTER D WITH SHORT STROKE OVERLAY;aSMALL LETTER D WITH SHORT STROKE OVERLAY
A7C9;LATIN CAPITAL LETTER S WITH SHORT STROKE OVERLAY;aSMALL LETTER S WITH SHORT STROKE OVERLAY
A7D0;LATIN CAPITAL LETTER CLOSED INSULAR G;aSMALL LETTER CLOSED INSULAR G
A7D3;LATIN SMALL LETTER DOUBLE THORN
A7D5;LATIN SMALL LETTER DOUBLE WYNN;aCAPITAL LETTER MIDDLE SCOTS S;aSMALL LETTER MIDDLE SCOTS S
A7D8;LATIN CAPITAL LETTER SIGMOID S;aSMALL LETTER SIGMOID S
A7F2;MODIFIER LETTER CAPITAL C;cF;cQ;LATIN CAPITAL LETTER REVERSED HALF H
A7F6;LATIN SMALL LETTER REVERSED HALF H;aEPIGRAPHIC LETTER SIDEWAYS I
A7F8;MODIFIER LETTER CAPITAL H WITH STROKE;bSMALL LIGATURE OE;LATIN LETTER SMALL CAPITAL TURNED M
A7FB;LATIN EPIGRAPHIC LETTER REVERSED F;dP;cINVERTED M;cI LONGA;cARCHAIC M;SYLOTI NAGRI LETTER A
A801;SYLOTI NAGRI LETTER I;bSIGN DVISVARA;bLETTER U;cE;cO;bSIGN HASANTA;bLETTER KO;cKHO;cGO;cGHO
A80B;SYLOTI NAGRI SIGN ANUSVARA;bLETTER CO;cCHO;cJO;cJHO;cTTO;cTTHO;cDDO;cDDHO;cTO;cTHO;cDO;cDHO
A818;SYLOTI NAGRI LETTER NO;cPO;cPHO;cBO;cBHO;cMO;cRO;cLO;cRRO;cSO;cHO;bVOWEL SIGN A;dI;dU;dE;dOO
A828;SYLOTI NAGRI POETRY MARK-1;cMARK-2;cMARK-3;cMARK-4;bSIGN ALTERNATE HASANTA
A830;NORTH INDIC FRACTION ONE QUARTER;dHALF;cTHREE QUARTERS;cONE SIXTEENTH;dEIGHTH
A835;NORTH INDIC FRACTION THREE SIXTEENTHS;bQUARTER MARK;bPLACEHOLDER MARK;bRUPEE MARK
A839;NORTH INDIC QUANTITY MARK
A840;PHAGS-PA LETTER KA;bKHA;bGA;bNGA;bCA;bCHA;bJA;bNYA;bTA;bTHA;bDA;bNA;bPA;bPHA;bBA;bMA;bTSA
A851;PHAGS-PA LETTER TSHA;bDZA;bWA;bZHA;bZA;bSMALL A;bYA;bRA;bLA;bSHA;bSA;bHA;bA;bI;bU;bE;bO;bQA
A863;PHAGS-PA LETTER XA;bFA;bGGA;bEE;aSUBJOINED LETTER WA;cYA;aLETTER TTA;bTTHA;bDDA;bNNA
A86D;PHAGS-PA LETTER ALTERNATE YA;bVOICELESS SHA;bVOICED HA;bASPIRATED FA;aSUBJOINED LETTER RA
A872;PHAGS-PA SUPERFIXED LETTER RA;aLETTER CANDRABINDU;aSINGLE HEAD MARK;aDOUBLE HEAD MARK
A876;PHAGS-PA MARK SHAD;bDOUBLE SHAD
A880;SAURASHTRA SIGN ANUSVARA;bVISARGA;aLETTER A;bAA;bI;bII;bU;bUU;bVOCALIC R;cRR;cL;cLL;bE;bEE
A88E;SAURASHTRA LETTER AI;bO;bOO;bAU;bKA;bKHA;bGA;bGHA;bNGA;bCA;bCHA;bJA;bJHA;bNYA;bTTA;bTTHA;bDDA
A89F;SAURASHTRA LETTER DDHA;bNNA;bTA;bTHA;bDA;bDHA;bNA;bPA;bPHA;bBA;bBHA;bMA;bYA;bRA;bLA;bVA;bSHA
A8B0;SAURASHTRA LETTER SSA;bSA;bHA;bLLA;aCONSONANT SIGN HAARU;aVOWEL SIGN AA;cI;cII;cU;cUU
A8BA;SAURASHTRA VOWEL SIGN VOCALIC R;dRR;dL;dLL;cE;cEE;cAI;cO;cOO;cAU;aSIGN VIRAMA;bCANDRABINDU
A8CE;SAURASHTRA DANDA;aDOUBLE DANDA;aDIGIT ZERO;bONE;bTWO;bTHREE;bFOUR;bFIVE;bSIX;bSEVEN;bEIGHT
A8D9;SAURASHTRA DIGIT NINE
A8E0;COMBINING DEVANAGARI DIGIT ZERO;cONE;cTWO;cTHREE;cFOUR;cFIVE;cSIX;cSEVEN;cEIGHT;cNINE
A8EA;COMBINING DEVANAGARI LETTER A;cU;cKA;cNA;cPA;cRA;cVI;bSIGN AVAGRAHA
A8F2;DEVANAGARI SIGN SPACING CANDRABINDU;bCANDRABINDU VIRAMA;bDOUBLE CANDRABINDU VIRAMA
A8F5;DEVANAGARI SIGN CANDRABINDU TWO;cTHREE;cAVAGRAHA;bPUSHPIKA;aGAP FILLER;aCARET;aHEADSTROKE
A8FC;DEVANAGARI SIGN SIDDHAM;aJAIN OM;aLETTER AY;aVOWEL SIGN AY;KAYAH LI DIGIT ZERO;cONE;cTWO
A903;KAYAH LI DIGIT THREE;cFOUR;cFIVE;cSIX;cSEVEN;cEIGHT;cNINE;bLETTER KA;cKHA;cGA;cNGA;cSA;cSHA
A910;KAYAH LI LETTER ZA;cNYA;cTA;cHTA;cNA;cPA;cPHA;cMA;cDA;cBA;cRA;cYA;cLA;cWA;cTHA;cHA;cVA;cCA;cA
A923;KAYAH LI LETTER OE;cI;cOO;bVOWEL UE;cE;cU;cEE;cO;bTONE PLOPHU;cCALYA;dPLOPHU;bSIGN CWI;cSHYA
A930;REJANG LETTER KA;bGA;bNGA;bTA;bDA;bNA;bPA;bBA;bMA;bCA;bJA;bNYA;bSA;bRA;bLA;bYA;bWA;bHA;bMBA
A943;REJANG LETTER NGGA;bNDA;bNYJA;bA;aVOWEL SIGN I;cU;cE;cAI;cO;cAU;cEU;cEA;aCONSONANT SIGN NG;cN
A951;REJANG CONSONANT SIGN R;cH;aVIRAMA
A95F;REJANG SECTION MARK;HANGUL CHOSEONG TIKEUT-MIEUM;bTIKEUT-PIEUP;bTIKEUT-SIOS;bTIKEUT-CIEUC
A964;HANGUL CHOSEONG RIEUL-KIYEOK;bRIEUL-SSANGKIYEOK;bRIEUL-TIKEUT;bRIEUL-SSANGTIKEUT;bRIEUL-MIEUM
A969;HANGUL CHOSEONG RIEUL-PIEUP;bRIEUL-SSANGPIEUP;bRIEUL-KAPYEOUNPIEUP;bRIEUL-SIOS;bRIEUL-CIEUC
A96E;HANGUL CHOSEONG RIEUL-KHIEUKH;bMIEUM-KIYEOK;bMIEUM-TIKEUT;bMIEUM-SIOS;bPIEUP-SIOS-THIEUTH
A973;HANGUL CHOSEONG PIEUP-KHIEUKH;bPIEUP-HIEUH;bSSANGSIOS-PIEUP;bIEUNG-RIEUL;bIEUNG-HIEUH
A978;HANGUL CHOSEONG SSANGCIEUC-HIEUH;bSSANGTHIEUTH;bPHIEUPH-HIEUH;bHIEUH-SIOS;bSSANGYEORINHIEUH
A980;JAVANESE SIGN PANYANGGA;bCECAK;bLAYAR;bWIGNYAN;aLETTER A;bI KAWI;bI;bII;bU;bPA CEREK
A98A;JAVANESE LETTER NGA LELET;dRASWADI;bE;bAI;bO;bKA;cSASAK;cMURDA;bGA;cMURDA;bNGA;bCA;cMURDA;bJA
A998;JAVANESE LETTER NYA MURDA;bJA MAHAPRANA;bNYA;bTTA;cMAHAPRANA;bDDA;cMAHAPRANA;bNA MURDA;bTA
A9A1;JAVANESE LETTER TA MURDA;bDA;cMAHAPRANA;bNA;bPA;cMURDA;bBA;cMURDA;bMA;bYA;bRA;cAGUNG;bLA;bWA
A9AF;JAVANESE LETTER SA MURDA;cMAHAPRANA;bSA;bHA;aSIGN CECAK TELU;aVOWEL SIGN TARUNG;cTOLONG;cWULU
A9B7;JAVANESE VOWEL SIGN WULU MELIK;cSUKU;dMENDUT;cTALING;cDIRGA MURE;cPEPET;aCONSONANT SIGN KERET
A9BE;JAVANESE CONSONANT SIGN PENGKAL;cCAKRA;aPANGKON;aLEFT RERENGGAN;aRIGHT RERENGGAN;aPADA ANDAP
A9C4;JAVANESE PADA MADYA;bLUHUR;bWINDU;bPANGKAT;bLINGSA;bLUNGSI;bADEG;cADEG;bPISELEH
A9CD;JAVANESE TURNED PADA PISELEH
A9CF;JAVANESE PANGRANGKEP;aDIGIT ZERO;bONE;bTWO;bTHREE;bFOUR;bFIVE;bSIX;bSEVEN;bEIGHT;bNINE
A9DE;JAVANESE PADA TIRTA TUMETES;bISEN-ISEN;MYANMAR LETTER SHAN GHA;cCHA;cJHA;cNNA;cBHA
A9E5;MYANMAR SIGN SHAN SAW;aMODIFIER LETTER SHAN REDUPLICATION;aLETTER TAI LAING NYA;dFA;dGA;dGHA
A9EB;MYANMAR LETTER TAI LAING JA;dJHA;dDDA;dDDHA;dNNA;aTAI LAING DIGIT ZERO;dONE;dTWO;dTHREE;dFOUR
A9F5;MYANMAR TAI LAING DIGIT FIVE;dSIX;dSEVEN;dEIGHT;dNINE;aLETTER TAI LAING LLA;dDA;dDHA;dBA;dBHA
AA00;CHAM LETTER A;bI;bU;bE;bAI;bO;bKA;bKHA;bGA;bGHA;bNGUE;bNGA;bCHA;bCHHA;bJA;bJHA;bNHUE;bNHA
AA12;CHAM LETTER NHJA;bTA;bTHA;bDA;bDHA;bNUE;bNA;bDDA;bPA;bPPA;bPHA;bBA;bBHA;bMUE;bMA;bBBA;bYA;bRA
AA24;CHAM LETTER LA;bVA;bSSA;bSA;bHA;aVOWEL SIGN AA;cI;cII;cEI;cU;cOE;cO;cAI;cAU;cUE
AA33;CHAM CONSONANT SIGN YA;cRA;cLA;cWA
AA40;CHAM LETTER FINAL K;cG;cNG;aCONSONANT SIGN FINAL NG;aLETTER FINAL CH;cT;cN;cP;cY;cR;cL;cSS
AA4C;CHAM CONSONANT SIGN FINAL M;dH
AA50;CHAM DIGIT ZERO;bONE;bTWO;bTHREE;bFOUR;bFIVE;bSIX;bSEVEN;bEIGHT;bNINE
AA5C;CHAM PUNCTUATION SPIRAL;bDANDA;bDOUBLE DANDA;bTRIPLE DANDA;MYANMAR LETTER KHAMTI GA;cCA;cCHA
AA63;MYANMAR LETTER KHAMTI JA;cJHA;cNYA;cTTA;cTTHA;cDDA;cDDHA;cDHA;cNA;cSA;cHA;cHHA;cFA
AA70;MYANMAR MODIFIER LETTER KHAMTI REDUPLICATION;aLETTER KHAMTI XA;cZA;cRA;aLOGOGRAM KHAMTI OAY
AA75;MYANMAR LOGOGRAM KHAMTI QN;cHM;aSYMBOL AITON EXCLAMATION;cONE;cTWO;aLETTER AITON RA
AA7B;MYANMAR SIGN PAO KAREN TONE;bTAI LAING TONE-2;dTONE-5;aLETTER SHWE PALAUNG CHA;dSHA
AA80;TAI VIET LETTER LOW KO;cHIGH KO;cLOW KHO;cHIGH KHO;cLOW KHHO;cHIGH KHHO;cLOW GO;cHIGH GO
AA88;TAI VIET LETTER LOW NGO;cHIGH NGO;cLOW CO;cHIGH CO;cLOW CHO;cHIGH CHO;cLOW SO;cHIGH SO
AA90;TAI VIET LETTER LOW NYO;cHIGH NYO;cLOW DO;cHIGH DO;cLOW TO;cHIGH TO;cLOW THO;cHIGH THO
AA98;TAI VIET LETTER LOW NO;cHIGH NO;cLOW BO;cHIGH BO;cLOW PO;cHIGH PO;cLOW PHO;cHIGH PHO;cLOW FO
AAA1;TAI VIET LETTER HIGH FO;cLOW MO;cHIGH MO;cLOW YO;cHIGH YO;cLOW RO;cHIGH RO;cLOW LO;cHIGH LO
AAAA;TAI VIET LETTER LOW VO;cHIGH VO;cLOW HO;cHIGH HO;cLOW O;cHIGH O;bMAI KANG;bVOWEL AA;cI;cUE;cU
AAB5;TAI VIET VOWEL E;cO;bMAI KHIT;bVOWEL IA;cUEA;cUA;cAUE;cAY;cAN;cAM;bTONE MAI EK;dNUENG;dTHO
AAC2;TAI VIET TONE MAI SONG
AADB;TAI VIET SYMBOL KON;cNUENG;cSAM;cHO HOI;cKOI KOI;MEETEI MAYEK LETTER E;cO;cCHA;cNYA;cTTA
AAE5;MEETEI MAYEK LETTER TTHA;cDDA;cDDHA;cNNA;cSHA;cSSA;bVOWEL SIGN II;dUU;dAAI;dAU;dAAU;bCHEIKHAN
AAF1;MEETEI MAYEK AHANG KHUDAM;bANJI;bSYLLABLE REPETITION MARK;bWORD REPETITION MARK
AAF5;MEETEI MAYEK VOWEL SIGN VISARGA;bVIRAMA
AB01;ETHIOPIC SYLLABLE TTHU;bTTHI;bTTHAA;bTTHEE;bTTHE;bTTHO
AB09;ETHIOPIC SYLLABLE DDHU;bDDHI;bDDHAA;bDDHEE;bDDHE;bDDHO
AB11;ETHIOPIC SYLLABLE DZU;bDZI;bDZAA;bDZEE;bDZE;bDZO
AB20;ETHIOPIC SYLLABLE CCHHA;bCCHHU;bCCHHI;bCCHHAA;bCCHHEE;bCCHHE;bCCHHO
AB28;ETHIOPIC SYLLABLE BBA;bBBU;bBBI;bBBAA;bBBEE;bBBE;bBBO
AB30;LATIN SMALL LETTER BARRED ALPHA;cA REVERSED-SCHWA;cBLACKLETTER E;cBARRED E;cE WITH FLOURISH
AB35;LATIN SMALL LETTER LENIS F;cSCRIPT G WITH CROSSED-TAIL;cL WITH INVERTED LAZY S
AB38;LATIN SMALL LETTER L WITH DOUBLE MIDDLE TILDE;eMIDDLE RING;cM WITH CROSSED-TAIL
AB3B;LATIN SMALL LETTER N WITH CROSSED-TAIL;cENG WITH CROSSED-TAIL;cBLACKLETTER O;eWITH STROKE
AB3F;LATIN SMALL LETTER OPEN O WITH STROKE;cINVERTED OE;cTURNED OE WITH STROKE;fHORIZONTAL STROKE
AB43;LATIN SMALL LETTER TURNED O OPEN-O;fWITH STROKE;cSTIRRUP R
AB46;LATIN LETTER SMALL CAPITAL R WITH RIGHT LEG;aSMALL LETTER R WITHOUT HANDLE;cDOUBLE R
AB49;LATIN SMALL LETTER R WITH CROSSED-TAIL;cDOUBLE R WITH CROSSED-TAIL;cSCRIPT R;eWITH RING
AB4D;LATIN SMALL LETTER BASELINE ESH;cU WITH SHORT RIGHT LEG;dBAR WITH SHORT RIGHT LEG;cUI
AB51;LATIN SMALL LETTER TURNED UI;cU WITH LEFT HOOK;cCHI;dWITH LOW RIGHT RING;fLEFT SERIF
AB56;LATIN SMALL LETTER X WITH LOW RIGHT RING;eLONG LEFT LEG;hAND LOW RIGHT RING;hWITH SERIF
AB5A;LATIN SMALL LETTER Y WITH SHORT RIGHT LEG;MODIFIER BREVE WITH INVERTED BREVE
AB5C;MODIFIER LETTER SMALL HENG;cL WITH INVERTED LAZY S;eMIDDLE TILDE;cU WITH LEFT HOOK
AB60;LATIN SMALL LETTER SAKHA YAT;cIOTIFIED E;cOPEN OE;cUO;cINVERTED ALPHA
AB65;GREEK LETTER SMALL CAPITAL OMEGA;LATIN SMALL LETTER DZ DIGRAPH WITH RETROFLEX HOOK
AB67;LATIN SMALL LETTER TS DIGRAPH WITH RETROFLEX HOOK;cTURNED R WITH MIDDLE TILDE
AB69;MODIFIER LETTER SMALL TURNED W;bLEFT TACK;bRIGHT TACK
AB70;CHEROKEE SMALL LETTER A;cE;cI;cO;cU;cV;cGA;cKA;cGE;cGI;cGO;cGU;cGV;cHA;cHE;cHI;cHO;cHU;cHV
AB83;CHEROKEE SMALL LETTER LA;cLE;cLI;cLO;cLU;cLV;cMA;cME;cMI;cMO;cMU;cNA;cHNA;cNAH;cNE;cNI;cNO
AB94;CHEROKEE SMALL LETTER NU;cNV;cQUA;cQUE;cQUI;cQUO;cQUU;cQUV;cSA;cS;cSE;cSI;cSO;cSU;cSV;cDA;cTA
ABA5;CHEROKEE SMALL LETTER DE;cTE;cDI;cTI;cDO;cDU;cDV;cDLA;cTLA;cTLE;cTLI;cTLO;cTLU;cTLV;cTSA;cTSE
ABB5;CHEROKEE SMALL LETTER TSI;cTSO;cTSU;cTSV;cWA;cWE;cWI;cWO;cWU;cWV;cYA;MEETEI MAYEK LETTER KOK
ABC1;MEETEI MAYEK LETTER SAM;cLAI;cMIT;cPA;cNA;cCHIL;cTIL;cKHOU;cNGOU;cTHOU;cWAI;cYANG;cHUK;cUN;cI
ABD0;MEETEI MAYEK LETTER PHAM;cATIYA;cGOK;cJHAM;cRAI;cBA;cJIL;cDIL;cGHOU;cDHOU;cBHAM;cKOK LONSUM
ABDC;MEETEI MAYEK LETTER LAI LONSUM;cMIT LONSUM;cPA LONSUM;cNA LONSUM;cTIL LONSUM;cNGOU LONSUM
ABE2;MEETEI MAYEK LETTER I LONSUM;bVOWEL SIGN ONAP;dINAP;dANAP;dYENAP;dSOUNAP;dUNAP;dCHEINAP;dNUNG
ABEB;MEETEI MAYEK CHEIKHEI;bLUM IYEK;bAPUN IYEK
ABF0;MEETEI MAYEK DIGIT ZERO;cONE;cTWO;cTHREE;cFOUR;cFIVE;cSIX;cSEVEN;cEIGHT;cNINE
D7B0;HANGUL JUNGSEONG O-YEO;bO-O-I;bYO-A;bYO-AE;bYO-EO;bU-YEO;bU-I-I;bYU-AE;bYU-O;bEU-A;bEU-EO
D7BB;HANGUL JUNGSEONG EU-E;bEU-O;bI-YA-O;bI-YAE;bI-YEO;bI-YE;bI-O-I;bI-YO;bI-YU;bI-I;bARAEA-A
D7C6;HANGUL JUNGSEONG ARAEA-E
D7CB;HANGUL JONGSEONG NIEUN-RIEUL;bNIEUN-CHIEUCH;bSSANGTIKEUT;bSSANGTIKEUT-PIEUP;bTIKEUT-PIEUP
D7D0;HANGUL JONGSEONG TIKEUT-SIOS;bTIKEUT-SIOS-KIYEOK;bTIKEUT-CIEUC;bTIKEUT-CHIEUCH
D7D4;HANGUL JONGSEONG TIKEUT-THIEUTH;bRIEUL-SSANGKIYEOK;bRIEUL-KIYEOK-HIEUH;bSSANGRIEUL-KHIEUKH
D7D8;HANGUL JONGSEONG RIEUL-MIEUM-HIEUH;bRIEUL-PIEUP-TIKEUT;bRIEUL-PIEUP-PHIEUPH;bRIEUL-YESIEUNG
D7DC;HANGUL JONGSEONG RIEUL-YEORINHIEUH-HIEUH;bKAPYEOUNRIEUL;bMIEUM-NIEUN;bMIEUM-SSANGNIEUN
D7E0;HANGUL JONGSEONG SSANGMIEUM;bMIEUM-PIEUP-SIOS;bMIEUM-CIEUC;bPIEUP-TIKEUT;bPIEUP-RIEUL-PHIEUPH
D7E5;HANGUL JONGSEONG PIEUP-MIEUM;bSSANGPIEUP;bPIEUP-SIOS-TIKEUT;bPIEUP-CIEUC;bPIEUP-CHIEUCH
D7EA;HANGUL JONGSEONG SIOS-MIEUM;bSIOS-KAPYEOUNPIEUP;bSSANGSIOS-KIYEOK;bSSANGSIOS-TIKEUT
D7EE;HANGUL JONGSEONG SIOS-PANSIOS;bSIOS-CIEUC;bSIOS-CHIEUCH;bSIOS-THIEUTH;bSIOS-HIEUH
D7F3;HANGUL JONGSEONG PANSIOS-PIEUP;bPANSIOS-KAPYEOUNPIEUP;bYESIEUNG-MIEUM;bYESIEUNG-HIEUH
D7F7;HANGUL JONGSEONG CIEUC-PIEUP;bCIEUC-SSANGPIEUP;bSSANGCIEUC;bPHIEUPH-SIOS;bPHIEUPH-THIEUTH
FB00;LATIN SMALL LIGATURE FF;cFI;cFL;cFFI;cFFL;cLONG S T;cST
FB13;ARMENIAN SMALL LIGATURE MEN NOW;dECH;dINI;cVEW NOW;cMEN XEH
FB1D;HEBREW LETTER YOD WITH HIRIQ;aPOINT JUDEO-SPANISH VARIKA;aLIGATURE YIDDISH YOD YOD PATAH
FB20;HEBREW LETTER ALTERNATIVE AYIN;bWIDE ALEF;cDALET;cHE;cKAF;cLAMED;cFINAL MEM;cRESH;cTAV
FB29;HEBREW LETTER ALTERNATIVE PLUS SIGN;bSHIN WITH SHIN DOT;dSIN DOT;dDAGESH AND SHIN DOT
FB2D;HEBREW LETTER SHIN WITH DAGESH AND SIN DOT;bALEF WITH PATAH;dQAMATS;dMAPIQ;bBET WITH DAGESH
FB32;HEBREW LETTER GIMEL WITH DAGESH;bDALET WITH DAGESH;bHE WITH MAPIQ;bVAV WITH DAGESH
FB36;HEBREW LETTER ZAYIN WITH DAGESH
FB38;HEBREW LETTER TET WITH DAGESH;bYOD WITH DAGESH;bFINAL KAF WITH DAGESH;bKAF WITH DAGESH
FB3C;HEBREW LETTER LAMED WITH DAGESH
FB3E;HEBREW LETTER MEM WITH DAGESH
FB40;HEBREW LETTER NUN WITH DAGESH;bSAMEKH WITH DAGESH
FB43;HEBREW LETTER FINAL PE WITH DAGESH;bPE WITH DAGESH
FB46;HEBREW LETTER TSADI WITH DAGESH;bQOF WITH DAGESH;bRESH WITH DAGESH;bSHIN WITH DAGESH
FB4A;HEBREW LETTER TAV WITH DAGESH;bVAV WITH HOLAM;bBET WITH RAFE;bKAF WITH RAFE;bPE WITH RAFE
FB4F;HEBREW LIGATURE ALEF LAMED;ARABIC LETTER ALEF WASLA ISOLATED FORM;dFINAL FORM
FB52;ARABIC LETTER BEEH ISOLATED FORM;cFINAL FORM;cINITIAL FORM;cMEDIAL FORM;bPEH ISOLATED FORM
FB57;ARABIC LETTER PEH FINAL FORM;cINITIAL FORM;cMEDIAL FORM;bBEHEH ISOLATED FORM;cFINAL FORM
FB5C;ARABIC LETTER BEHEH INITIAL FORM;cMEDIAL FORM;bTTEHEH ISOLATED FORM;cFINAL FORM;cINITIAL FORM
FB61;ARABIC LETTER TTEHEH MEDIAL FORM;bTEHEH ISOLATED FORM;cFINAL FORM;cINITIAL FORM;cMEDIAL FORM
FB66;ARABIC LETTER TTEH ISOLATED FORM;cFINAL FORM;cINITIAL FORM;cMEDIAL FORM;bVEH ISOLATED FORM
FB6B;ARABIC LETTER VEH FINAL FORM;cINITIAL FORM;cMEDIAL FORM;bPEHEH ISOLATED FORM;cFINAL FORM
FB70;ARABIC LETTER PEHEH INITIAL FORM;cMEDIAL FORM;bDYEH ISOLATED FORM;cFINAL FORM;cINITIAL FORM
FB75;ARABIC LETTER DYEH MEDIAL FORM;bNYEH ISOLATED FORM;cFINAL FORM;cINITIAL FORM;cMEDIAL FORM
FB7A;ARABIC LETTER TCHEH ISOLATED FORM;cFINAL FORM;cINITIAL FORM;cMEDIAL FORM
FB7E;ARABIC LETTER TCHEHEH ISOLATED FORM;cFINAL FORM;cINITIAL FORM;cMEDIAL FORM
FB82;ARABIC LETTER DDAHAL ISOLATED FORM;cFINAL FORM;bDAHAL ISOLATED FORM;cFINAL FORM
FB86;ARABIC LETTER DUL ISOLATED FORM;cFINAL FORM;bDDAL ISOLATED FORM;cFINAL FORM
FB8A;ARABIC LETTER JEH ISOLATED FORM;cFINAL FORM;bRREH ISOLATED FORM;cFINAL FORM
FB8E;ARABIC LETTER KEHEH ISOLATED FORM;cFINAL FORM;cINITIAL FORM;cMEDIAL FORM;bGAF ISOLATED FORM
FB93;ARABIC LETTER GAF FINAL FORM;cINITIAL FORM;cMEDIAL FORM;bGUEH ISOLATED FORM;cFINAL FORM
FB98;ARABIC LETTER GUEH INITIAL FORM;cMEDIAL FORM;bNGOEH ISOLATED FORM;cFINAL FORM;cINITIAL FORM
FB9D;ARABIC LETTER NGOEH MEDIAL FORM;bNOON GHUNNA ISOLATED FORM;dFINAL FORM;bRNOON ISOLATED FORM
FBA1;ARABIC LETTER RNOON FINAL FORM;cINITIAL FORM;cMEDIAL FORM;bHEH WITH YEH ABOVE ISOLATED FORM
FBA5;ARABIC LETTER HEH WITH YEH ABOVE FINAL FORM;cGOAL ISOLATED FORM;dFINAL FORM;dINITIAL FORM
FBA9;ARABIC LETTER HEH GOAL MEDIAL FORM;cDOACHASHMEE ISOLATED FORM;dFINAL FORM;dINITIAL FORM
FBAD;ARABIC LETTER HEH DOACHASHMEE MEDIAL FORM;bYEH BARREE ISOLATED FORM;dFINAL FORM
FBB0;ARABIC LETTER YEH BARREE WITH HAMZA ABOVE ISOLATED FORM;gFINAL FORM;aSYMBOL DOT ABOVE;cBELOW
FBB4;ARABIC SYMBOL TWO DOTS ABOVE;dBELOW;bTHREE DOTS ABOVE;dBELOW;dPOINTING DOWNWARDS ABOVE;fBELOW
FBBA;ARABIC SYMBOL FOUR DOTS ABOVE;dBELOW;bDOUBLE VERTICAL BAR BELOW;bTWO DOTS VERTICALLY ABOVE
FBBE;ARABIC SYMBOL TWO DOTS VERTICALLY BELOW;bRING;bSMALL TAH ABOVE;dBELOW;bWASLA ABOVE
FBD3;ARABIC LETTER NG ISOLATED FORM;cFINAL FORM;cINITIAL FORM;cMEDIAL FORM;bU ISOLATED FORM
FBD8;ARABIC LETTER U FINAL FORM;bOE ISOLATED FORM;cFINAL FORM;bYU ISOLATED FORM;cFINAL FORM
FBDD;ARABIC LETTER U WITH HAMZA ABOVE ISOLATED FORM;bVE ISOLATED FORM;cFINAL FORM
FBE0;ARABIC LETTER KIRGHIZ OE ISOLATED FORM;dFINAL FORM;cYU ISOLATED FORM;dFINAL FORM
FBE4;ARABIC LETTER E ISOLATED FORM;cFINAL FORM;cINITIAL FORM;cMEDIAL FORM
FBE8;ARABIC LETTER UIGHUR KAZAKH KIRGHIZ ALEF MAKSURA INITIAL FORM;gMEDIAL FORM
FBEA;ARABIC LIGATURE YEH WITH HAMZA ABOVE WITH ALEF ISOLATED FORM;hFINAL FORM;gAE ISOLATED FORM
FBED;ARABIC LIGATURE YEH WITH HAMZA ABOVE WITH AE FINAL FORM;gWAW ISOLATED FORM;hFINAL FORM
FBF0;ARABIC LIGATURE YEH WITH HAMZA ABOVE WITH U ISOLATED FORM;hFINAL FORM;gOE ISOLATED FORM
FBF3;ARABIC LIGATURE YEH WITH HAMZA ABOVE WITH OE FINAL FORM;gYU ISOLATED FORM;hFINAL FORM
FBF6;ARABIC LIGATURE YEH WITH HAMZA ABOVE WITH E ISOLATED FORM;hFINAL FORM;hINITIAL FORM
FBF9;ARABIC LIGATURE UIGHUR KIRGHIZ YEH WITH HAMZA ABOVE WITH ALEF MAKSURA ISOLATED FORM
FBFA;ARABIC LIGATURE UIGHUR KIRGHIZ YEH WITH HAMZA ABOVE WITH ALEF MAKSURA FINAL FORM
FBFB;ARABIC LIGATURE UIGHUR KIRGHIZ YEH WITH HAMZA ABOVE WITH ALEF MAKSURA INITIAL FORM
FBFC;ARABIC LETTER FARSI YEH ISOLATED FORM;dFINAL FORM;dINITIAL FORM;dMEDIAL FORM
FC00;ARABIC LIGATURE YEH WITH HAMZA ABOVE WITH JEEM ISOLATED FORM;gHAH ISOLATED FORM
FC02;ARABIC LIGATURE YEH WITH HAMZA ABOVE WITH MEEM ISOLATED FORM;gALEF MAKSURA ISOLATED FORM
FC04;ARABIC LIGATURE YEH WITH HAMZA ABOVE WITH YEH ISOLATED FORM;bBEH WITH JEEM ISOLATED FORM
FC06;ARABIC LIGATURE BEH WITH HAH ISOLATED FORM;dKHAH ISOLATED FORM;dMEEM ISOLATED FORM
FC09;ARABIC LIGATURE BEH WITH ALEF MAKSURA ISOLATED FORM;dYEH ISOLATED FORM
FC0B;ARABIC LIGATURE TEH WITH JEEM ISOLATED FORM;dHAH ISOLATED FORM;dKHAH ISOLATED FORM
FC0E;ARABIC LIGATURE TEH WITH MEEM ISOLATED FORM;dALEF MAKSURA ISOLATED FORM;dYEH ISOLATED FORM
FC11;ARABIC LIGATURE THEH WITH JEEM ISOLATED FORM;dMEEM ISOLATED FORM;dALEF MAKSURA ISOLATED FORM
FC14;ARABIC LIGATURE THEH WITH YEH ISOLATED FORM;bJEEM WITH HAH ISOLATED FORM;dMEEM ISOLATED FORM
FC17;ARABIC LIGATURE HAH WITH JEEM ISOLATED FORM;dMEEM ISOLATED FORM;bKHAH WITH JEEM ISOLATED FORM
FC1A;ARABIC LIGATURE KHAH WITH HAH ISOLATED FORM;dMEEM ISOLATED FORM;bSEEN WITH JEEM ISOLATED FORM
FC1D;ARABIC LIGATURE SEEN WITH HAH ISOLATED FORM;dKHAH ISOLATED FORM;dMEEM ISOLATED FORM
FC20;ARABIC LIGATURE SAD WITH HAH ISOLATED FORM;dMEEM ISOLATED FORM;bDAD WITH JEEM ISOLATED FORM
FC23;ARABIC LIGATURE DAD WITH HAH ISOLATED FORM;dKHAH ISOLATED FORM;dMEEM ISOLATED FORM
FC26;ARABIC LIGATURE TAH WITH HAH ISOLATED FORM;dMEEM ISOLATED FORM;bZAH WITH MEEM ISOLATED FORM
FC29;ARABIC LIGATURE AIN WITH JEEM ISOLATED FORM;dMEEM ISOLATED FORM
FC2B;ARABIC LIGATURE GHAIN WITH JEEM ISOLATED FORM;dMEEM ISOLATED FORM
FC2D;ARABIC LIGATURE FEH WITH JEEM ISOLATED FORM;dHAH ISOLATED FORM;dKHAH ISOLATED FORM
FC30;ARABIC LIGATURE FEH WITH MEEM ISOLATED FORM;dALEF MAKSURA ISOLATED FORM;dYEH ISOLATED FORM
FC33;ARABIC LIGATURE QAF WITH HAH ISOLATED FORM;dMEEM ISOLATED FORM;dALEF MAKSURA ISOLATED FORM
FC36;ARABIC LIGATURE QAF WITH YEH ISOLATED FORM;bKAF WITH ALEF ISOLATED FORM;dJEEM ISOLATED FORM
FC39;ARABIC LIGATURE KAF WITH HAH ISOLATED FORM;dKHAH ISOLATED FORM;dLAM ISOLATED FORM
FC3C;ARABIC LIGATURE KAF WITH MEEM ISOLATED FORM;dALEF MAKSURA ISOLATED FORM;dYEH ISOLATED FORM
FC3F;ARABIC LIGATURE LAM WITH JEEM ISOLATED FORM;dHAH ISOLATED FORM;dKHAH ISOLATED FORM
FC42;ARABIC LIGATURE LAM WITH MEEM ISOLATED FORM;dALEF MAKSURA ISOLATED FORM;dYEH ISOLATED FORM
FC45;ARABIC LIGATURE MEEM WITH JEEM ISOLATED FORM;dHAH ISOLATED FORM;dKHAH ISOLATED FORM
FC48;ARABIC LIGATURE MEEM WITH MEEM ISOLATED FORM;dALEF MAKSURA ISOLATED FORM;dYEH ISOLATED FORM
FC4B;ARABIC LIGATURE NOON WITH JEEM ISOLATED FORM;dHAH ISOLATED FORM;dKHAH ISOLATED FORM
FC4E;ARABIC LIGATURE NOON WITH MEEM ISOLATED FORM;dALEF MAKSURA ISOLATED FORM;dYEH ISOLATED FORM
FC51;ARABIC LIGATURE HEH WITH JEEM ISOLATED FORM;dMEEM ISOLATED FORM;dALEF MAKSURA ISOLATED FORM
FC54;ARABIC LIGATURE HEH WITH YEH ISOLATED FORM;bYEH WITH JEEM ISOLATED FORM;dHAH ISOLATED FORM
FC57;ARABIC LIGATURE YEH WITH KHAH ISOLATED FORM;dMEEM ISOLATED FORM;dALEF MAKSURA ISOLATED FORM
FC5A;ARABIC LIGATURE YEH WITH YEH ISOLATED FORM;bTHAL WITH SUPERSCRIPT ALEF ISOLATED FORM
FC5C;ARABIC LIGATURE REH WITH SUPERSCRIPT ALEF ISOLATED FORM
FC5D;ARABIC LIGATURE ALEF MAKSURA WITH SUPERSCRIPT ALEF ISOLATED FORM
FC5E;ARABIC LIGATURE SHADDA WITH DAMMATAN ISOLATED FORM;dKASRATAN ISOLATED FORM
FC60;ARABIC LIGATURE SHADDA WITH FATHA ISOLATED FORM;dDAMMA ISOLATED FORM;dKASRA ISOLATED FORM
FC63;ARABIC LIGATURE SHADDA WITH SUPERSCRIPT ALEF ISOLATED FORM
FC64;ARABIC LIGATURE YEH WITH HAMZA ABOVE WITH REH FINAL FORM;gZAIN FINAL FORM;gMEEM FINAL FORM
FC67;ARABIC LIGATURE YEH WITH HAMZA ABOVE WITH NOON FINAL FORM;gALEF MAKSURA FINAL FORM
FC69;ARABIC LIGATURE YEH WITH HAMZA ABOVE WITH YEH FINAL FORM;bBEH WITH REH FINAL FORM
FC6B;ARABIC LIGATURE BEH WITH ZAIN FINAL FORM;dMEEM FINAL FORM;dNOON FINAL FORM
FC6E;ARABIC LIGATURE BEH WITH ALEF MAKSURA FINAL FORM;dYEH FINAL FORM;bTEH WITH REH FINAL FORM
FC71;ARABIC LIGATURE TEH WITH ZAIN FINAL FORM;dMEEM FINAL FORM;dNOON FINAL FORM
FC74;ARABIC LIGATURE TEH WITH ALEF MAKSURA FINAL FORM;dYEH FINAL FORM;bTHEH WITH REH FINAL FORM
FC77;ARABIC LIGATURE THEH WITH ZAIN FINAL FORM;dMEEM FINAL FORM;dNOON FINAL FORM
FC7A;ARABIC LIGATURE THEH WITH ALEF MAKSURA FINAL FORM;dYEH FINAL FORM
FC7C;ARABIC LIGATURE FEH WITH ALEF MAKSURA FINAL FORM;dYEH FINAL FORM
FC7E;ARABIC LIGATURE QAF WITH ALEF MAKSURA FINAL FORM;dYEH FINAL FORM;bKAF WITH ALEF FINAL FORM
FC81;ARABIC LIGATURE KAF WITH LAM FINAL FORM;dMEEM FINAL FORM;dALEF MAKSURA FINAL FORM
FC84;ARABIC LIGATURE KAF WITH YEH FINAL FORM;bLAM WITH MEEM FINAL FORM;dALEF MAKSURA FINAL FORM
FC87;ARABIC LIGATURE LAM WITH YEH FINAL FORM;bMEEM WITH ALEF FINAL FORM;dMEEM FINAL FORM
FC8A;ARABIC LIGATURE NOON WITH REH FINAL FORM;dZAIN FINAL FORM;dMEEM FINAL FORM;dNOON FINAL FORM
FC8E;ARABIC LIGATURE NOON WITH ALEF MAKSURA FINAL FORM;dYEH FINAL FORM
FC90;ARABIC LIGATURE ALEF MAKSURA WITH SUPERSCRIPT ALEF FINAL FORM;bYEH WITH REH FINAL FORM
FC92;ARABIC LIGATURE YEH WITH ZAIN FINAL FORM;dMEEM FINAL FORM;dNOON FINAL FORM
FC95;ARABIC LIGATURE YEH WITH ALEF MAKSURA FINAL FORM;dYEH FINAL FORM
FC97;ARABIC LIGATURE YEH WITH HAMZA ABOVE WITH JEEM INITIAL FORM;gHAH INITIAL FORM
FC99;ARABIC LIGATURE YEH WITH HAMZA ABOVE WITH KHAH INITIAL FORM;gMEEM INITIAL FORM
FC9B;ARABIC LIGATURE YEH WITH HAMZA ABOVE WITH HEH INITIAL FORM;bBEH WITH JEEM INITIAL FORM
FC9D;ARABIC LIGATURE BEH WITH HAH INITIAL FORM;dKHAH INITIAL FORM;dMEEM INITIAL FORM
FCA0;ARABIC LIGATURE BEH WITH HEH INITIAL FORM;bTEH WITH JEEM INITIAL FORM;dHAH INITIAL FORM
FCA3;ARABIC LIGATURE TEH WITH KHAH INITIAL FORM;dMEEM INITIAL FORM;dHEH INITIAL FORM
FCA6;ARABIC LIGATURE THEH WITH MEEM INITIAL FORM;bJEEM WITH HAH INITIAL FORM;dMEEM INITIAL FORM
FCA9;ARABIC LIGATURE HAH WITH JEEM INITIAL FORM;dMEEM INITIAL FORM;bKHAH WITH JEEM INITIAL FORM
FCAC;ARABIC LIGATURE KHAH WITH MEEM INITIAL FORM;bSEEN WITH JEEM INITIAL FORM;dHAH INITIAL FORM
FCAF;ARABIC LIGATURE SEEN WITH KHAH INITIAL FORM;dMEEM INITIAL FORM;bSAD WITH HAH INITIAL FORM
FCB2;ARABIC LIGATURE SAD WITH KHAH INITIAL FORM;dMEEM INITIAL FORM;bDAD WITH JEEM INITIAL FORM
FCB5;ARABIC LIGATURE DAD WITH HAH INITIAL FORM;dKHAH INITIAL FORM;dMEEM INITIAL FORM
FCB8;ARABIC LIGATURE TAH WITH HAH INITIAL FORM;bZAH WITH MEEM INITIAL FORM
FCBA;ARABIC LIGATURE AIN WITH JEEM INITIAL FORM;dMEEM INITIAL FORM;bGHAIN WITH JEEM INITIAL FORM
FCBD;ARABIC LIGATURE GHAIN WITH MEEM INITIAL FORM;bFEH WITH JEEM INITIAL FORM;dHAH INITIAL FORM
FCC0;ARABIC LIGATURE FEH WITH KHAH INITIAL FORM;dMEEM INITIAL FORM;bQAF WITH HAH INITIAL FORM
FCC3;ARABIC LIGATURE QAF WITH MEEM INITIAL FORM;bKAF WITH JEEM INITIAL FORM;dHAH INITIAL FORM
FCC6;ARABIC LIGATURE KAF WITH KHAH INITIAL FORM;dLAM INITIAL FORM;dMEEM INITIAL FORM
FCC9;ARABIC LIGATURE LAM WITH JEEM INITIAL FORM;dHAH INITIAL FORM;dKHAH INITIAL FORM
FCCC;ARABIC LIGATURE LAM WITH MEEM INITIAL FORM;dHEH INITIAL FORM;bMEEM WITH JEEM INITIAL FORM
FCCF;ARABIC LIGATURE MEEM WITH HAH INITIAL FORM;dKHAH INITIAL FORM;dMEEM INITIAL FORM
FCD2;ARABIC LIGATURE NOON WITH JEEM INITIAL FORM;dHAH INITIAL FORM;dKHAH INITIAL FORM
FCD5;ARABIC LIGATURE NOON WITH MEEM INITIAL FORM;dHEH INITIAL FORM;bHEH WITH JEEM INITIAL FORM
FCD8;ARABIC LIGATURE HEH WITH MEEM INITIAL FORM;dSUPERSCRIPT ALEF INITIAL FORM
FCDA;ARABIC LIGATURE YEH WITH JEEM INITIAL FORM;dHAH INITIAL FORM;dKHAH INITIAL FORM
FCDD;ARABIC LIGATURE YEH WITH MEEM INITIAL FORM;dHEH INITIAL FORM
FCDF;ARABIC LIGATURE YEH WITH HAMZA ABOVE WITH MEEM MEDIAL FORM;gHEH MEDIAL FORM
FCE1;ARABIC LIGATURE BEH WITH MEEM MEDIAL FORM;dHEH MEDIAL FORM;bTEH WITH MEEM MEDIAL FORM
FCE4;ARABIC LIGATURE TEH WITH HEH MEDIAL FORM;bTHEH WITH MEEM MEDIAL FORM;dHEH MEDIAL FORM
FCE7;ARABIC LIGATURE SEEN WITH MEEM MEDIAL FORM;dHEH MEDIAL FORM;bSHEEN WITH MEEM MEDIAL FORM
FCEA;ARABIC LIGATURE SHEEN WITH HEH MEDIAL FORM;bKAF WITH LAM MEDIAL FORM;dMEEM MEDIAL FORM
FCED;ARABIC LIGATURE LAM WITH MEEM MEDIAL FORM;bNOON WITH MEEM MEDIAL FORM;dHEH MEDIAL FORM
FCF0;ARABIC LIGATURE YEH WITH MEEM MEDIAL FORM;dHEH MEDIAL FORM;bSHADDA WITH FATHA MEDIAL FORM
FCF3;ARABIC LIGATURE SHADDA WITH DAMMA MEDIAL FORM;dKASRA MEDIAL FORM
FCF5;ARABIC LIGATURE TAH WITH ALEF MAKSURA ISOLATED FORM;dYEH ISOLATED FORM
FCF7;ARABIC LIGATURE AIN WITH ALEF MAKSURA ISOLATED FORM;dYEH ISOLATED FORM
FCF9;ARABIC LIGATURE GHAIN WITH ALEF MAKSURA ISOLATED FORM;dYEH ISOLATED FORM
FCFB;ARABIC LIGATURE SEEN WITH ALEF MAKSURA ISOLATED FORM;dYEH ISOLATED FORM
FCFD;ARABIC LIGATURE SHEEN WITH ALEF MAKSURA ISOLATED FORM;dYEH ISOLATED FORM
FCFF;ARABIC LIGATURE HAH WITH ALEF MAKSURA ISOLATED FORM;dYEH ISOLATED FORM
FD01;ARABIC LIGATURE JEEM WITH ALEF MAKSURA ISOLATED FORM;dYEH ISOLATED FORM
FD03;ARABIC LIGATURE KHAH WITH ALEF MAKSURA ISOLATED FORM;dYEH ISOLATED FORM
FD05;ARABIC LIGATURE SAD WITH ALEF MAKSURA ISOLATED FORM;dYEH ISOLATED FORM
FD07;ARABIC LIGATURE DAD WITH ALEF MAKSURA ISOLATED FORM;dYEH ISOLATED FORM
FD09;ARABIC LIGATURE SHEEN WITH JEEM ISOLATED FORM;dHAH ISOLATED FORM;dKHAH ISOLATED FORM
FD0C;ARABIC LIGATURE SHEEN WITH MEEM ISOLATED FORM;dREH ISOLATED FORM;bSEEN WITH REH ISOLATED FORM
FD0F;ARABIC LIGATURE SAD WITH REH ISOLATED FORM;bDAD WITH REH ISOLATED FORM
FD11;ARABIC LIGATURE TAH WITH ALEF MAKSURA FINAL FORM;dYEH FINAL FORM
FD13;ARABIC LIGATURE AIN WITH ALEF MAKSURA FINAL FORM;dYEH FINAL FORM
FD15;ARABIC LIGATURE GHAIN WITH ALEF MAKSURA FINAL FORM;dYEH FINAL FORM
FD17;ARABIC LIGATURE SEEN WITH ALEF MAKSURA FINAL FORM;dYEH FINAL FORM
FD19;ARABIC LIGATURE SHEEN WITH ALEF MAKSURA FINAL FORM;dYEH FINAL FORM
FD1B;ARABIC LIGATURE HAH WITH ALEF MAKSURA FINAL FORM;dYEH FINAL FORM
FD1D;ARABIC LIGATURE JEEM WITH ALEF MAKSURA FINAL FORM;dYEH FINAL FORM
FD1F;ARABIC LIGATURE KHAH WITH ALEF MAKSURA FINAL FORM;dYEH FINAL FORM
FD21;ARABIC LIGATURE SAD WITH ALEF MAKSURA FINAL FORM;dYEH FINAL FORM
FD23;ARABIC LIGATURE DAD WITH ALEF MAKSURA FINAL FORM;dYEH FINAL FORM;bSHEEN WITH JEEM FINAL FORM
FD26;ARABIC LIGATURE SHEEN WITH HAH FINAL FORM;dKHAH FINAL FORM;dMEEM FINAL FORM;dREH FINAL FORM
FD2A;ARABIC LIGATURE SEEN WITH REH FINAL FORM;bSAD WITH REH FINAL FORM;bDAD WITH REH FINAL FORM
FD2D;ARABIC LIGATURE SHEEN WITH JEEM INITIAL FORM;dHAH INITIAL FORM;dKHAH INITIAL FORM
FD30;ARABIC LIGATURE SHEEN WITH MEEM INITIAL FORM;bSEEN WITH HEH INITIAL FORM
FD32;ARABIC LIGATURE SHEEN WITH HEH INITIAL FORM;bTAH WITH MEEM INITIAL FORM
FD34;ARABIC LIGATURE SEEN WITH JEEM MEDIAL FORM;dHAH MEDIAL FORM;dKHAH MEDIAL FORM
FD37;ARABIC LIGATURE SHEEN WITH JEEM MEDIAL FORM;dHAH MEDIAL FORM;dKHAH MEDIAL FORM
FD3A;ARABIC LIGATURE TAH WITH MEEM MEDIAL FORM;bZAH WITH MEEM MEDIAL FORM
FD3C;ARABIC LIGATURE ALEF WITH FATHATAN FINAL FORM;eISOLATED FORM;ORNATE LEFT PARENTHESIS
FD3F;ORNATE RIGHT PARENTHESIS;ARABIC LIGATURE RAHIMAHU ALLAAH;bRADI ALLAAHU ANH;dANHAA;dANHUM
FD44;ARABIC LIGATURE RADI ALLAAHU ANHUMAA;dANHUNNA;bSALLALLAAHU ALAYHI WA-AALIH;bALAYHI AS-SALAAM
FD48;ARABIC LIGATURE ALAYHIM AS-SALAAM;bALAYHIMAA AS-SALAAM;bALAYHI AS-SALAATU WAS-SALAAM
FD4B;ARABIC LIGATURE QUDDISA SIRRAH;bSALLALLAHU ALAYHI WAAALIHEE WA-SALLAM;bALAYHAA AS-SALAAM
FD4E;ARABIC LIGATURE TABAARAKA WA-TAAALAA;bRAHIMAHUM ALLAAH;bTEH WITH JEEM WITH MEEM INITIAL FORM
FD51;ARABIC LIGATURE TEH WITH HAH WITH JEEM FINAL FORM;gINITIAL FORM;fMEEM INITIAL FORM
FD54;ARABIC LIGATURE TEH WITH KHAH WITH MEEM INITIAL FORM;dMEEM WITH JEEM INITIAL FORM
FD56;ARABIC LIGATURE TEH WITH MEEM WITH HAH INITIAL FORM;fKHAH INITIAL FORM
FD58;ARABIC LIGATURE JEEM WITH MEEM WITH HAH FINAL FORM;gINITIAL FORM
FD5A;ARABIC LIGATURE HAH WITH MEEM WITH YEH FINAL FORM;fALEF MAKSURA FINAL FORM
FD5C;ARABIC LIGATURE SEEN WITH HAH WITH JEEM INITIAL FORM;dJEEM WITH HAH INITIAL FORM
FD5E;ARABIC LIGATURE SEEN WITH JEEM WITH ALEF MAKSURA FINAL FORM;dMEEM WITH HAH FINAL FORM
FD60;ARABIC LIGATURE SEEN WITH MEEM WITH HAH INITIAL FORM;fJEEM INITIAL FORM;fMEEM FINAL FORM
FD63;ARABIC LIGATURE SEEN WITH MEEM WITH MEEM INITIAL FORM;bSAD WITH HAH WITH HAH FINAL FORM
FD65;ARABIC LIGATURE SAD WITH HAH WITH HAH INITIAL FORM;dMEEM WITH MEEM FINAL FORM
FD67;ARABIC LIGATURE SHEEN WITH HAH WITH MEEM FINAL FORM;gINITIAL FORM;dJEEM WITH YEH FINAL FORM
FD6A;ARABIC LIGATURE SHEEN WITH MEEM WITH KHAH FINAL FORM;gINITIAL FORM;fMEEM FINAL FORM
FD6D;ARABIC LIGATURE SHEEN WITH MEEM WITH MEEM INITIAL FORM
FD6E;ARABIC LIGATURE DAD WITH HAH WITH ALEF MAKSURA FINAL FORM;dKHAH WITH MEEM FINAL FORM
FD70;ARABIC LIGATURE DAD WITH KHAH WITH MEEM INITIAL FORM;bTAH WITH MEEM WITH HAH FINAL FORM
FD72;ARABIC LIGATURE TAH WITH MEEM WITH HAH INITIAL FORM;fMEEM INITIAL FORM;fYEH FINAL FORM
FD75;ARABIC LIGATURE AIN WITH JEEM WITH MEEM FINAL FORM;dMEEM WITH MEEM FINAL FORM;gINITIAL FORM
FD78;ARABIC LIGATURE AIN WITH MEEM WITH ALEF MAKSURA FINAL FORM
FD79;ARABIC LIGATURE GHAIN WITH MEEM WITH MEEM FINAL FORM;fYEH FINAL FORM;fALEF MAKSURA FINAL FORM
FD7C;ARABIC LIGATURE FEH WITH KHAH WITH MEEM FINAL FORM;gINITIAL FORM
FD7E;ARABIC LIGATURE QAF WITH MEEM WITH HAH FINAL FORM;fMEEM FINAL FORM
FD80;ARABIC LIGATURE LAM WITH HAH WITH MEEM FINAL FORM;fYEH FINAL FORM;fALEF MAKSURA FINAL FORM
FD83;ARABIC LIGATURE LAM WITH JEEM WITH JEEM INITIAL FORM;gFINAL FORM;dKHAH WITH MEEM FINAL FORM
FD86;ARABIC LIGATURE LAM WITH KHAH WITH MEEM INITIAL FORM;dMEEM WITH HAH FINAL FORM;gINITIAL FORM
FD89;ARABIC LIGATURE MEEM WITH HAH WITH JEEM INITIAL FORM;fMEEM INITIAL FORM;fYEH FINAL FORM
FD8C;ARABIC LIGATURE MEEM WITH JEEM WITH HAH INITIAL FORM;fMEEM INITIAL FORM
FD8E;ARABIC LIGATURE MEEM WITH KHAH WITH JEEM INITIAL FORM;fMEEM INITIAL FORM
FD92;ARABIC LIGATURE MEEM WITH JEEM WITH KHAH INITIAL FORM;bHEH WITH MEEM WITH JEEM INITIAL FORM
FD94;ARABIC LIGATURE HEH WITH MEEM WITH MEEM INITIAL FORM;bNOON WITH HAH WITH MEEM INITIAL FORM
FD96;ARABIC LIGATURE NOON WITH HAH WITH ALEF MAKSURA FINAL FORM;dJEEM WITH MEEM FINAL FORM
FD98;ARABIC LIGATURE NOON WITH JEEM WITH MEEM INITIAL FORM;fALEF MAKSURA FINAL FORM
FD9A;ARABIC LIGATURE NOON WITH MEEM WITH YEH FINAL FORM;fALEF MAKSURA FINAL FORM
FD9C;ARABIC LIGATURE YEH WITH MEEM WITH MEEM FINAL FORM;gINITIAL FORM
FD9E;ARABIC LIGATURE BEH WITH KHAH WITH YEH FINAL FORM;bTEH WITH JEEM WITH YEH FINAL FORM
FDA0;ARABIC LIGATURE TEH WITH JEEM WITH ALEF MAKSURA FINAL FORM;dKHAH WITH YEH FINAL FORM
FDA2;ARABIC LIGATURE TEH WITH KHAH WITH ALEF MAKSURA FINAL FORM;dMEEM WITH YEH FINAL FORM
FDA4;ARABIC LIGATURE TEH WITH MEEM WITH ALEF MAKSURA FINAL FORM
FDA5;ARABIC LIGATURE JEEM WITH MEEM WITH YEH FINAL FORM;dHAH WITH ALEF MAKSURA FINAL FORM
FDA7;ARABIC LIGATURE JEEM WITH MEEM WITH ALEF MAKSURA FINAL FORM
FDA8;ARABIC LIGATURE SEEN WITH KHAH WITH ALEF MAKSURA FINAL FORM;bSAD WITH HAH WITH YEH FINAL FORM
FDAA;ARABIC LIGATURE SHEEN WITH HAH WITH YEH FINAL FORM;bDAD WITH HAH WITH YEH FINAL FORM
FDAC;ARABIC LIGATURE LAM WITH JEEM WITH YEH FINAL FORM;dMEEM WITH YEH FINAL FORM
FDAE;ARABIC LIGATURE YEH WITH HAH WITH YEH FINAL FORM;dJEEM WITH YEH FINAL FORM
FDB0;ARABIC LIGATURE YEH WITH MEEM WITH YEH FINAL FORM;bMEEM WITH MEEM WITH YEH FINAL FORM
FDB2;ARABIC LIGATURE QAF WITH MEEM WITH YEH FINAL FORM;bNOON WITH HAH WITH YEH FINAL FORM
FDB4;ARABIC LIGATURE QAF WITH MEEM WITH HAH INITIAL FORM;bLAM WITH HAH WITH MEEM INITIAL FORM
FDB6;ARABIC LIGATURE AIN WITH MEEM WITH YEH FINAL FORM;bKAF WITH MEEM WITH YEH FINAL FORM
FDB8;ARABIC LIGATURE NOON WITH JEEM WITH HAH INITIAL FORM;bMEEM WITH KHAH WITH YEH FINAL FORM
FDBA;ARABIC LIGATURE LAM WITH JEEM WITH MEEM INITIAL FORM;bKAF WITH MEEM WITH MEEM FINAL FORM
FDBC;ARABIC LIGATURE LAM WITH JEEM WITH MEEM FINAL FORM;bNOON WITH JEEM WITH HAH FINAL FORM
FDBE;ARABIC LIGATURE JEEM WITH HAH WITH YEH FINAL FORM;bHAH WITH JEEM WITH YEH FINAL FORM
FDC0;ARABIC LIGATURE MEEM WITH JEEM WITH YEH FINAL FORM;bFEH WITH MEEM WITH YEH FINAL FORM
FDC2;ARABIC LIGATURE BEH WITH HAH WITH YEH FINAL FORM;bKAF WITH MEEM WITH MEEM INITIAL FORM
FDC4;ARABIC LIGATURE AIN WITH JEEM WITH MEEM INITIAL FORM;bSAD WITH MEEM WITH MEEM INITIAL FORM
FDC6;ARABIC LIGATURE SEEN WITH KHAH WITH YEH FINAL FORM;bNOON WITH JEEM WITH YEH FINAL FORM
FDCF;ARABIC LIGATURE SALAAMUHU ALAYNAA
FDF0;ARABIC LIGATURE SALLA USED AS KORANIC STOP SIGN ISOLATED FORM
FDF1;ARABIC LIGATURE QALA USED AS KORANIC STOP SIGN ISOLATED FORM;bALLAH ISOLATED FORM
FDF3;ARABIC LIGATURE AKBAR ISOLATED FORM;bMOHAMMAD ISOLATED FORM;bSALAM ISOLATED FORM
FDF6;ARABIC LIGATURE RASOUL ISOLATED FORM;bALAYHE ISOLATED FORM;bWASALLAM ISOLATED FORM
FDF9;ARABIC LIGATURE SALLA ISOLATED FORM;bSALLALLAHOU ALAYHE WASALLAM;bJALLAJALALOUHOU;RIAL SIGN
FDFD;ARABIC LIGATURE BISMILLAH AR-RAHMAN AR-RAHEEM;bSUBHAANAHU WA TAAALAA;bAZZA WA JALL
FE00;VARIATION SELECTOR-1;aSELECTOR-2;aSELECTOR-3;aSELECTOR-4;aSELECTOR-5;aSELECTOR-6;aSELECTOR-7
FE07;VARIATION SELECTOR-8;aSELECTOR-9;aSELECTOR-10;aSELECTOR-11;aSELECTOR-12;aSELECTOR-13
FE0D;VARIATION SELECTOR-14;aSELECTOR-15;aSELECTOR-16;PRESENTATION FORM FOR VERTICAL COMMA
FE11;PRESENTATION FORM FOR VERTICAL IDEOGRAPHIC COMMA;eFULL STOP;dCOLON;dSEMICOLON
FE15;PRESENTATION FORM FOR VERTICAL EXCLAMATION MARK;dQUESTION MARK;dLEFT WHITE LENTICULAR BRACKET
FE18;PRESENTATION FORM FOR VERTICAL RIGHT WHITE LENTICULAR BRAKCET;dHORIZONTAL ELLIPSIS
FE20;COMBINING LIGATURE LEFT HALF;bRIGHT HALF;aDOUBLE TILDE LEFT HALF;cRIGHT HALF
FE24;COMBINING MACRON LEFT HALF;bRIGHT HALF;aCONJOINING MACRON;aLIGATURE LEFT HALF BELOW
FE28;COMBINING LIGATURE RIGHT HALF BELOW;aTILDE LEFT HALF BELOW;bRIGHT HALF BELOW
FE2B;COMBINING MACRON LEFT HALF BELOW;bRIGHT HALF BELOW;aCONJOINING MACRON BELOW
FE2E;COMBINING CYRILLIC TITLO LEFT HALF;cRIGHT HALF;PRESENTATION FORM FOR VERTICAL TWO DOT LEADER
FE31;PRESENTATION FORM FOR VERTICAL EM DASH;dEN DASH;dLOW LINE;dWAVY LOW LINE;dLEFT PARENTHESIS
FE36;PRESENTATION FORM FOR VERTICAL RIGHT PARENTHESIS;dLEFT CURLY BRACKET;dRIGHT CURLY BRACKET
FE39;PRESENTATION FORM FOR VERTICAL LEFT TORTOISE SHELL BRACKET;dRIGHT TORTOISE SHELL BRACKET
FE3B;PRESENTATION FORM FOR VERTICAL LEFT BLACK LENTICULAR BRACKET;dRIGHT BLACK LENTICULAR BRACKET
FE3D;PRESENTATION FORM FOR VERTICAL LEFT DOUBLE ANGLE BRACKET;dRIGHT DOUBLE ANGLE BRACKET
FE3F;PRESENTATION FORM FOR VERTICAL LEFT ANGLE BRACKET;dRIGHT ANGLE BRACKET;dLEFT CORNER BRACKET
FE42;PRESENTATION FORM FOR VERTICAL RIGHT CORNER BRACKET;dLEFT WHITE CORNER BRACKET
FE44;PRESENTATION FORM FOR VERTICAL RIGHT WHITE CORNER BRACKET;SESAME DOT;WHITE SESAME DOT
FE47;PRESENTATION FORM FOR VERTICAL LEFT SQUARE BRACKET;dRIGHT SQUARE BRACKET;DASHED OVERLINE
FE4A;CENTRELINE OVERLINE;WAVY OVERLINE;DOUBLE WAVY OVERLINE;DASHED LOW LINE;CENTRELINE LOW LINE
FE4F;WAVY LOW LINE;SMALL COMMA;aIDEOGRAPHIC COMMA;aFULL STOP
FE54;SMALL SEMICOLON;aCOLON;aQUESTION MARK;aEXCLAMATION MARK;aEM DASH;aLEFT PARENTHESIS
FE5A;SMALL RIGHT PARENTHESIS;aLEFT CURLY BRACKET;aRIGHT CURLY BRACKET;aLEFT TORTOISE SHELL BRACKET
FE5E;SMALL RIGHT TORTOISE SHELL BRACKET;aNUMBER SIGN;aAMPERSAND;aASTERISK;aPLUS SIGN;aHYPHEN-MINUS
FE64;SMALL LESS-THAN SIGN;aGREATER-THAN SIGN;aEQUALS SIGN
FE68;SMALL REVERSE SOLIDUS;aDOLLAR SIGN;aPERCENT SIGN;aCOMMERCIAL AT
FE70;ARABIC FATHATAN ISOLATED FORM;aTATWEEL WITH FATHATAN ABOVE;aDAMMATAN ISOLATED FORM
FE73;ARABIC TAIL FRAGMENT;aKASRATAN ISOLATED FORM
FE76;ARABIC FATHA ISOLATED FORM;bMEDIAL FORM;aDAMMA ISOLATED FORM;bMEDIAL FORM
FE7A;ARABIC KASRA ISOLATED FORM;bMEDIAL FORM;aSHADDA ISOLATED FORM;bMEDIAL FORM
FE7E;ARABIC SUKUN ISOLATED FORM;bMEDIAL FORM;aLETTER HAMZA ISOLATED FORM
FE81;ARABIC LETTER ALEF WITH MADDA ABOVE ISOLATED FORM;fFINAL FORM;dHAMZA ABOVE ISOLATED FORM
FE84;ARABIC LETTER ALEF WITH HAMZA ABOVE FINAL FORM;bWAW WITH HAMZA ABOVE ISOLATED FORM
FE86;ARABIC LETTER WAW WITH HAMZA ABOVE FINAL FORM;bALEF WITH HAMZA BELOW ISOLATED FORM
FE88;ARABIC LETTER ALEF WITH HAMZA BELOW FINAL FORM;bYEH WITH HAMZA ABOVE ISOLATED FORM
FE8A;ARABIC LETTER YEH WITH HAMZA ABOVE FINAL FORM;fINITIAL FORM;fMEDIAL FORM;bALEF ISOLATED FORM
FE8E;ARABIC LETTER ALEF FINAL FORM;bBEH ISOLATED FORM;cFINAL FORM;cINITIAL FORM;cMEDIAL FORM
FE93;ARABIC LETTER TEH MARBUTA ISOLATED FORM;dFINAL FORM;cISOLATED FORM;cFINAL FORM;cINITIAL FORM
FE98;ARABIC LETTER TEH MEDIAL FORM;bTHEH ISOLATED FORM;cFINAL FORM;cINITIAL FORM;cMEDIAL FORM
FE9D;ARABIC LETTER JEEM ISOLATED FORM;cFINAL FORM;cINITIAL FORM;cMEDIAL FORM;bHAH ISOLATED FORM
FEA2;ARABIC LETTER HAH FINAL FORM;cINITIAL FORM;cMEDIAL FORM;bKHAH ISOLATED FORM;cFINAL FORM
FEA7;ARABIC LETTER KHAH INITIAL FORM;cMEDIAL FORM;bDAL ISOLATED FORM;cFINAL FORM
FEAB;ARABIC LETTER THAL ISOLATED FORM;cFINAL FORM;bREH ISOLATED FORM;cFINAL FORM
FEAF;ARABIC LETTER ZAIN ISOLATED FORM;cFINAL FORM;bSEEN ISOLATED FORM;cFINAL FORM;cINITIAL FORM
FEB4;ARABIC LETTER SEEN MEDIAL FORM;bSHEEN ISOLATED FORM;cFINAL FORM;cINITIAL FORM;cMEDIAL FORM
FEB9;ARABIC LETTER SAD ISOLATED FORM;cFINAL FORM;cINITIAL FORM;cMEDIAL FORM;bDAD ISOLATED FORM
FEBE;ARABIC LETTER DAD FINAL FORM;cINITIAL FORM;cMEDIAL FORM;bTAH ISOLATED FORM;cFINAL FORM
FEC3;ARABIC LETTER TAH INITIAL FORM;cMEDIAL FORM;bZAH ISOLATED FORM;cFINAL FORM;cINITIAL FORM
FEC8;ARABIC LETTER ZAH MEDIAL FORM;bAIN ISOLATED FORM;cFINAL FORM;cINITIAL FORM;cMEDIAL FORM
FECD;ARABIC LETTER GHAIN ISOLATED FORM;cFINAL FORM;cINITIAL FORM;cMEDIAL FORM;bFEH ISOLATED FORM
FED2;ARABIC LETTER FEH FINAL FORM;cINITIAL FORM;cMEDIAL FORM;bQAF ISOLATED FORM;cFINAL FORM
FED7;ARABIC LETTER QAF INITIAL FORM;cMEDIAL FORM;bKAF ISOLATED FORM;cFINAL FORM;cINITIAL FORM
FEDC;ARABIC LETTER KAF MEDIAL FORM;bLAM ISOLATED FORM;cFINAL FORM;cINITIAL FORM;cMEDIAL FORM
FEE1;ARABIC LETTER MEEM ISOLATED FORM;cFINAL FORM;cINITIAL FORM;cMEDIAL FORM;bNOON ISOLATED FORM
FEE6;ARABIC LETTER NOON FINAL FORM;cINITIAL FORM;cMEDIAL FORM;bHEH ISOLATED FORM;cFINAL FORM
FEEB;ARABIC LETTER HEH INITIAL FORM;cMEDIAL FORM;bWAW ISOLATED FORM;cFINAL FORM
FEEF;ARABIC LETTER ALEF MAKSURA ISOLATED FORM;dFINAL FORM;bYEH ISOLATED FORM;cFINAL FORM
FEF3;ARABIC LETTER YEH INITIAL FORM;cMEDIAL FORM
FEF5;ARABIC LIGATURE LAM WITH ALEF WITH MADDA ABOVE ISOLATED FORM;hFINAL FORM
FEF7;ARABIC LIGATURE LAM WITH ALEF WITH HAMZA ABOVE ISOLATED FORM;hFINAL FORM;gBELOW ISOLATED FORM
FEFA;ARABIC LIGATURE LAM WITH ALEF WITH HAMZA BELOW FINAL FORM;eISOLATED FORM;eFINAL FORM
FEFF;ZERO WIDTH NO-BREAK SPACE
FF01;FULLWIDTH EXCLAMATION MARK;aQUOTATION MARK;aNUMBER SIGN;aDOLLAR SIGN;aPERCENT SIGN;aAMPERSAND
FF07;FULLWIDTH APOSTROPHE;aLEFT PARENTHESIS;aRIGHT PARENTHESIS;aASTERISK;aPLUS SIGN;aCOMMA
FF0D;FULLWIDTH HYPHEN-MINUS;aFULL STOP;aSOLIDUS;aDIGIT ZERO;bONE;bTWO;bTHREE;bFOUR;bFIVE;bSIX
FF17;FULLWIDTH DIGIT SEVEN;bEIGHT;bNINE;aCOLON;aSEMICOLON;aLESS-THAN SIGN;aEQUALS SIGN
FF1E;FULLWIDTH GREATER-THAN SIGN;aQUESTION MARK;aCOMMERCIAL AT;aLATIN CAPITAL LETTER A;dB;dC;dD;dE
FF26;FULLWIDTH LATIN CAPITAL LETTER F;dG;dH;dI;dJ;dK;dL;dM;dN;dO;dP;dQ;dR;dS;dT;dU;dV;dW;dX;dY;dZ
FF3B;FULLWIDTH LEFT SQUARE BRACKET;aREVERSE SOLIDUS;aRIGHT SQUARE BRACKET;aCIRCUMFLEX ACCENT
FF3F;FULLWIDTH LOW LINE;aGRAVE ACCENT;aLATIN SMALL LETTER A;dB;dC;dD;dE;dF;dG;dH;dI;dJ;dK;dL;dM;dN
FF4F;FULLWIDTH LATIN SMALL LETTER O;dP;dQ;dR;dS;dT;dU;dV;dW;dX;dY;dZ;aLEFT CURLY BRACKET
FF5C;FULLWIDTH VERTICAL LINE;aRIGHT CURLY BRACKET;aTILDE;aLEFT WHITE PARENTHESIS
FF60;FULLWIDTH RIGHT WHITE PARENTHESIS;HALFWIDTH IDEOGRAPHIC FULL STOP;aLEFT CORNER BRACKET
FF63;HALFWIDTH RIGHT CORNER BRACKET;aIDEOGRAPHIC COMMA;aKATAKANA MIDDLE DOT;bLETTER WO;cSMALL A;dI
FF69;HALFWIDTH KATAKANA LETTER SMALL U;dE;dO;dYA;dYU;dYO;dTU
FF70;HALFWIDTH KATAKANA-HIRAGANA PROLONGED SOUND MARK;aKATAKANA LETTER A;cI;cU;cE;cO;cKA;cKI;cKU
FF79;HALFWIDTH KATAKANA LETTER KE;cKO;cSA;cSI;cSU;cSE;cSO;cTA;cTI;cTU;cTE;cTO;cNA;cNI;cNU;cNE;cNO
FF8A;HALFWIDTH KATAKANA LETTER HA;cHI;cHU;cHE;cHO;cMA;cMI;cMU;cME;cMO;cYA;cYU;cYO;cRA;cRI;cRU;cRE
FF9B;HALFWIDTH KATAKANA LETTER RO;cWA;cN;bVOICED SOUND MARK;bSEMI-VOICED SOUND MARK;aHANGUL FILLER
FFA1;HALFWIDTH HANGUL LETTER KIYEOK;cSSANGKIYEOK;cKIYEOK-SIOS;cNIEUN;cNIEUN-CIEUC;cNIEUN-HIEUH
FFA7;HALFWIDTH HANGUL LETTER TIKEUT;cSSANGTIKEUT;cRIEUL;cRIEUL-KIYEOK;cRIEUL-MIEUM;cRIEUL-PIEUP
FFAD;HALFWIDTH HANGUL LETTER RIEUL-SIOS;cRIEUL-THIEUTH;cRIEUL-PHIEUPH;cRIEUL-HIEUH;cMIEUM;cPIEUP
FFB3;HALFWIDTH HANGUL LETTER SSANGPIEUP;cPIEUP-SIOS;cSIOS;cSSANGSIOS;cIEUNG;cCIEUC;cSSANGCIEUC
FFBA;HALFWIDTH HANGUL LETTER CHIEUCH;cKHIEUKH;cTHIEUTH;cPHIEUPH;cHIEUH
FFC2;HALFWIDTH HANGUL LETTER A;cAE;cYA;cYAE;cEO;cE
FFCA;HALFWIDTH HANGUL LETTER YEO;cYE;cO;cWA;cWAE;cOE
FFD2;HALFWIDTH HANGUL LETTER YO;cU;cWEO;cWE;cWI;cYU
FFDA;HALFWIDTH HANGUL LETTER EU;cYI;cI
FFE0;FULLWIDTH CENT SIGN;aPOUND SIGN;aNOT SIGN;aMACRON;aBROKEN BAR;aYEN SIGN;aWON SIGN
FFE8;HALFWIDTH FORMS LIGHT VERTICAL;aLEFTWARDS ARROW;aUPWARDS ARROW;aRIGHTWARDS ARROW
FFEC;HALFWIDTH DOWNWARDS ARROW;aBLACK SQUARE;aWHITE CIRCLE
FFF9;INTERLINEAR ANNOTATION ANCHOR;bSEPARATOR;bTERMINATOR;OBJECT REPLACEMENT CHARACTER
FFFD;REPLACEMENT CHARACTER"

end RecordSchema.Text.CharacterName
